import SelectQuery.Proofs.Binding.Numbering
import SelectQuery.Proofs.Binding.Pieces

/-! A text that goes on at a seam is bound in two parts: the first as it is bound alone, the second
with the numbers and the values that the first has left. -/

namespace SelectQuery.Binding

variable {dialect : Dialect}

lemma fill_constant (text : List Char) (ts : List Token) (numbers others : List Nat) :
    fill (fun _ => text) ts numbers = fill (fun _ => text) ts others := by
  induction ts generalizing numbers others with
  | nil => rfl
  | cons token ts ih =>
    rw [fill, fill]
    cases token.parameter? with
    | none => exact congrArg (token.source ++ ·) (ih numbers others)
    | some name => exact congrArg (text ++ ·) (ih numbers.tail others.tail)

lemma rewriting_append (ts us : List Token) :
    rewriting dialect (ts ++ us) = rewriting dialect ts ++
      String.ofList (fill (placeholderText dialect) us
        ((names us).map (number (names ts ++ names us)))) := by
  rw [rewriting, names_append, List.flatMap_append, String.ofList_append,
    flatMap_rewritten_append, flatMap_rewritten_eq_fill dialect _ us, ← rewriting]

structure Continued (dialect : Dialect) (parameters : Parameters) (ts us : List Token)
    (first second whole : BoundQuery) : Prop where
  sql : whole.sql = first.sql ++ String.ofList (fill (placeholderText dialect) us
    ((names us).map (number (names ts ++ names us))))
  values : ∃ later, whole.values = first.values ++ later ∧
    later.map some = (laterNames dialect (names ts) (names us)).map parameters.get?
  positional : dialect.sharesValues = false →
    whole = ⟨first.sql ++ second.sql, first.values ++ second.values⟩
  occurrences : occurrenceValues dialect (names ts ++ names us) whole.values =
    occurrenceValues dialect (names ts) first.values ++
      occurrenceValues dialect (names us) second.values

lemma continued_of_values {parameters : Parameters} {ts us : List Token} {xs ys zs : List Value}
    (hfirst : xs.map some = (boundNames dialect (names ts)).map parameters.get?)
    (hsecond : ys.map some = (boundNames dialect (names us)).map parameters.get?)
    (hwhole : zs.map some = (boundNames dialect (names ts ++ names us)).map parameters.get?) :
    Continued dialect parameters ts us ⟨rewriting dialect ts, xs⟩ ⟨rewriting dialect us, ys⟩
      ⟨rewriting dialect (ts ++ us), zs⟩ := by
  have hsplit := hwhole
  rw [boundNames_append, List.map_append, ← hfirst, List.map_eq_append_iff] at hsplit
  obtain ⟨front, later, rfl, hfront, hlater⟩ := hsplit
  obtain rfl : front = xs := eq_of_map_some hfront
  refine ⟨rewriting_append ts us, ⟨later, rfl, hlater⟩, fun hp => ?_, ?_⟩
  · rw [laterNames, hp, if_neg Bool.false_ne_true] at hlater
    rw [boundNames, hp, if_neg Bool.false_ne_true] at hsecond
    have hback : later = ys := eq_of_map_some (hlater.trans hsecond.symm)
    rw [hback, rewriting_append, rewriting_eq_fill dialect us, placeholderText_of_positional hp,
      fill_constant]
  · rw [occurrenceValues_eq hfirst, occurrenceValues_eq hsecond, occurrenceValues_eq hwhole,
      List.map_append]

theorem bind_append_seam (dialect : Dialect) {first second : String}
    (hclosed : Closed dialect first.toList) (hseam : Seam second.toList)
    (parameters : Parameters) :
    tokens dialect (first ++ second).toList =
        tokens dialect first.toList ++ tokens dialect second.toList ∧
      match bind first parameters dialect, bind second parameters dialect with
      | .error e, _ => bind (first ++ second) parameters dialect = .error e
      | .ok _, .error e => bind (first ++ second) parameters dialect = .error e
      | .ok front, .ok back => ∃ whole, bind (first ++ second) parameters dialect = .ok whole ∧
          Continued dialect parameters (tokens dialect first.toList)
            (tokens dialect second.toList) front back whole := by
  have htokens : tokens dialect (first ++ second).toList =
      tokens dialect first.toList ++ tokens dialect second.toList := by
    rw [String.toList_append, tokens_append hclosed hseam]
  have hfind : (names (tokens dialect (first ++ second).toList)).find? (lacks parameters) =
      ((names (tokens dialect first.toList)).find? (lacks parameters)).or
        ((names (tokens dialect second.toList)).find? (lacks parameters)) := by
    rw [htokens, names_append, List.find?_append]
  refine ⟨htokens, ?_⟩
  cases hfirst : (names (tokens dialect first.toList)).find? (lacks parameters) with
  | some name =>
    rw [hfirst, Option.some_or] at hfind
    rw [bind_missing hfirst]
    exact bind_missing hfind
  | none =>
    rw [hfirst, Option.none_or] at hfind
    obtain ⟨xs, hfront, hxs⟩ := bind_ok hfirst
    cases hsecond : (names (tokens dialect second.toList)).find? (lacks parameters) with
    | some name =>
      rw [hsecond] at hfind
      rw [hfront, bind_missing hsecond]
      exact bind_missing hfind
    | none =>
      rw [hsecond] at hfind
      obtain ⟨ys, hback, hys⟩ := bind_ok hsecond
      obtain ⟨zs, hwhole, hzs⟩ := bind_ok hfind
      rw [hfront, hback]
      rw [htokens] at hwhole hzs
      rw [names_append] at hzs
      exact ⟨_, hwhole, continued_of_values hxs hys hzs⟩

def furtherPrices : String := " AND d < @Top /* '@Name' */ OR e = @Min"

def furtherBounds : Parameters := priceBounds.insert "Top" (.int 20)

theorem bind_append_seam_furtherPrices :
    Closed .postgreSql boundedPrices.toList ∧ Seam furtherPrices.toList ∧
      ∃ whole, bind (boundedPrices ++ furtherPrices) furtherBounds .postgreSql = .ok whole ∧
        whole.values = [.int 10, .text "a", .int 20] := by
  have hclosed : Closed .postgreSql boundedPrices.toList := by decide +kernel
  have hseam : Seam furtherPrices.toList := seam_cons rfl _
  have hfirst : names (tokens .postgreSql boundedPrices.toList) = ["Min", "Name", "Min"] := by
    decide +kernel
  have hsecond : names (tokens .postgreSql furtherPrices.toList) = ["Top", "Min"] := by
    decide +kernel
  have hfound : (names (tokens .postgreSql boundedPrices.toList)).find? (lacks furtherBounds) =
      none := by
    rw [hfirst]
    rfl
  have hfurther : (names (tokens .postgreSql furtherPrices.toList)).find? (lacks furtherBounds) =
      none := by
    rw [hsecond]
    rfl
  obtain ⟨xs, hfront, hxs⟩ := bind_ok hfound
  obtain ⟨ys, hback, -⟩ := bind_ok hfurther
  obtain ⟨-, hparts⟩ := bind_append_seam .postgreSql hclosed hseam furtherBounds
  rw [hfront, hback] at hparts
  obtain ⟨whole, hwhole, hcontinued⟩ := hparts
  obtain ⟨later, hvalues, hlater⟩ := hcontinued.values
  rw [hfirst] at hxs
  rw [hfirst, hsecond] at hlater
  obtain rfl : xs = [.int 10, .text "a"] := eq_of_map_some hxs
  obtain rfl : later = [.int 20] := eq_of_map_some hlater
  exact ⟨hclosed, hseam, whole, hwhole, hvalues⟩

end SelectQuery.Binding
