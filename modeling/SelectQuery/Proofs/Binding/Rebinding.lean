import SelectQuery.Proofs.Binding.Pieces
import SelectQuery.Proofs.Binding.Renaming
import SelectQuery.Proofs.Text.Basic

/-! A bound text bound again stays as it is. Placeholders are no parameters, except on SQL Server,
where they are parameters that have their own numbers in their names. -/

namespace SelectQuery.Binding

def slotName (index : Nat) : String := "p" ++ Text.ofNat index

def numbered (values : List Value) : Parameters :=
  (values.zipIdx 1).foldl (fun parameters (value, index) =>
    parameters.insert (slotName index) value) .empty

variable {dialect : Dialect}

section Slots

lemma slotName_inj {i j : Nat} (h : slotName i = slotName j) : i = j :=
  Text.ofNat_inj ((String.append_right_inj "p").mp h)

lemma toList_slotName (index : Nat) : (slotName index).toList = 'p' :: Text.natDigits index := by
  simp [slotName, Text.ofNat]

lemma isIdentifier_slotName (index : Nat) : Text.IsIdentifier (slotName index).toList := by
  rw [toList_slotName]
  refine ⟨by decide +kernel, List.all_eq_true.mpr fun c hc => ?_⟩
  exact Text.inIdentifier_of_isAsciiDigit (Text.isAsciiDigit_of_mem_natDigits hc)

lemma numbered_concat (values : List Value) (value : Value) :
    numbered (values ++ [value]) =
      (numbered values).insert (slotName (values.length + 1)) value := by
  rw [numbered, List.zipIdx_append, List.foldl_append, Nat.add_comm]
  rfl

lemma get?_numbered (values : List Value) (i : Nat) :
    (numbered values).get? (slotName (i + 1)) = values[i]? := by
  induction values using List.reverseRecOn with
  | nil => rfl
  | append_singleton values value ih =>
    rw [numbered_concat, NameMap.get?_insert, ih]
    by_cases hi : i = values.length
    · subst hi
      simp
    · have hname : slotName (i + 1) ≠ slotName (values.length + 1) :=
        fun h => hi (Nat.succ.inj (slotName_inj h))
      rw [if_neg hname]
      rcases Nat.lt_or_gt_of_ne hi with h | h
      · rw [List.getElem?_append_left h]
      · rw [List.getElem?_eq_none (Nat.le_of_lt h), List.getElem?_eq_none (by simpa using! h)]

end Slots

lemma plain_placeholder (h : dialect ≠ .sqlServer) (index : Nat) :
    Plain (dialect.placeholder index) := by
  cases dialect with
  | sqlServer => exact absurd rfl h
  | postgreSql => exact plain_append.mpr ⟨rfl, plain_ofNat index⟩
  | mySql | sqlite => exact (rfl : Plain "?")

lemma isMark_placeholder (dialect : Dialect) (index : Nat) :
    ∃ c, (dialect.placeholder index).toList.head? = some c ∧ isMark c = true := by
  rw [toList_placeholder]
  cases dialect with
  | sqlServer => exact ⟨'@', rfl, rfl⟩
  | postgreSql => exact ⟨'$', rfl, rfl⟩
  | mySql | sqlite => exact ⟨'?', rfl, rfl⟩

lemma substitute_plain {text : String} (hplain : Plain text)
    (hhead : ∃ c, text.toList.head? = some c ∧ isMark c = true) :
    Substitute dialect (text.toList.map .other) := by
  constructor
  · rwa [flatMap_source_other]
  · intro rest _
    rw [flatMap_source_other]
    exact tokens_plain_append (List.all_eq_true.mp hplain) rest

def placed (dialect : Dialect) (bound : List String) : List Token → List Token :=
  substituted fun name =>
    (dialect.placeholder (bound.idxOf (String.ofList name) + 1)).toList.map .other

lemma flatMap_source_placed (dialect : Dialect) (bound : List String) (ts : List Token) :
    (placed dialect bound ts).flatMap Token.source = ts.flatMap (rewritten dialect bound) := by
  rw [placed, substituted, List.flatMap_assoc]
  refine List.flatMap_congr fun token _ => ?_
  rw [rewritten]
  cases token with
  | parameter name => exact (flatMap_source_other _).trans (toList_placeholder dialect _)
  | quoted | lineComment | blockComment | system | other =>
    simp [Token.substituted, Token.parameter?]

lemma names_placed (dialect : Dialect) (bound : List String) (ts : List Token) :
    names (placed dialect bound ts) = [] := by
  rw [names, List.filterMap_eq_nil_iff]
  intro token htoken
  obtain ⟨source, -, hsource⟩ := List.mem_flatMap.mp htoken
  cases source with
  | parameter name =>
    obtain ⟨c, -, rfl⟩ := List.mem_map.mp hsource
    rfl
  | quoted | lineComment | blockComment | system | other =>
    rw [List.mem_singleton.mp hsource]
    rfl

lemma nameless_rewriting (h : dialect ≠ .sqlServer) (sql : String) :
    names (tokens dialect (rewriting dialect (tokens dialect sql.toList)).toList) = [] := by
  have htokens : tokens dialect (rewriting dialect (tokens dialect sql.toList)).toList =
      placed dialect (boundNames dialect (names (tokens dialect sql.toList)))
        (tokens dialect sql.toList) := by
    rw [rewriting, String.toList_ofList, ← flatMap_source_placed]
    exact tokens_substituted (fun _ _ => substitute_plain (plain_placeholder h _)
      (isMark_placeholder dialect _)) sql.toList
  rw [htokens, names_placed]

lemma rewriting_sqlServer (sql : String) :
    rewriting .sqlServer (tokens .sqlServer sql.toList) = renamed .sqlServer
      (fun name => slotName (number (names (tokens .sqlServer sql.toList)) name)) sql := by
  rw [rewriting, renamed, List.flatMap_map]
  congr 1
  refine List.flatMap_congr fun token _ => ?_
  cases token with
  | parameter name => simp [rewritten, Token.parameter?, Token.renamed, Token.source,
      placeholderText, toList_slotName, Text.natDigits, number, boundNames, Dialect.sharesValues]
  | quoted | lineComment | blockComment | system | other => rfl

lemma bind_numbered {sql : String} {parameters : Parameters} {bound : BoundQuery}
    (h : bind sql parameters .sqlServer = .ok bound) :
    bind bound.sql (numbered bound.values) .sqlServer = .ok bound := by
  obtain ⟨hsql, hvalues⟩ := bound_of_bind h
  have hinj : ∀ m ∈ names (tokens .sqlServer sql.toList),
      ∀ n ∈ names (tokens .sqlServer sql.toList),
        slotName (number (names (tokens .sqlServer sql.toList)) m) =
          slotName (number (names (tokens .sqlServer sql.toList)) n) → m = n :=
    fun m hm n hn hmn => number_inj m hm n hn (slotName_inj hmn)
  have hothers : ∀ name ∈ names (tokens .sqlServer sql.toList),
      (numbered bound.values).get?
          (slotName (number (names (tokens .sqlServer sql.toList)) name)) =
        parameters.get? name := by
    intro name hname
    rw [number, get?_numbered]
    exact getElem?_idxOf hvalues (mem_boundNames.mpr hname)
  obtain ⟨name, hmissing, -⟩ | ⟨_, hbind, hrenamed⟩ :=
    bind_renamed_of_names (fun _ _ => isIdentifier_slotName _) hinj hothers
  · cases hmissing.symm.trans h
  · rw [hsql, rewriting_sqlServer, hrenamed, ← hbind, h]

theorem bind_bound {sql : String} {parameters : Parameters} {bound : BoundQuery}
    (h : bind sql parameters dialect = .ok bound) :
    (dialect ≠ .sqlServer → ∀ others : Parameters,
      bind bound.sql others dialect = .ok ⟨bound.sql, []⟩) ∧
    (dialect = .sqlServer → bind bound.sql (numbered bound.values) dialect = .ok bound) := by
  constructor
  · intro hdialect others
    rw [(bound_of_bind h).1]
    exact bind_of_nameless (nameless_rewriting hdialect sql) others
  · rintro rfl
    exact bind_numbered h

def crowdedPrices : String := "a=@@Min@Min/@Name-@Min@ @[@Min]'@Name''x'@Name--@Min"

theorem bind_bound_crowdedPrices :
    (∃ bound, bind crowdedPrices priceBounds .sqlServer = .ok bound ∧
      bound.sql = "a=@@Min@p1/@p2-@p1@ @[@Min]'@Name''x'@p2--@Min" ∧
      bind bound.sql (numbered bound.values) .sqlServer = .ok bound) ∧
    ∃ bound, bind crowdedPrices priceBounds .postgreSql = .ok bound ∧
      bound.sql = "a=@@Min$1/$2-$1@ @[$1]'@Name''x'$2--@Min" ∧
      bind bound.sql .empty .postgreSql = .ok ⟨bound.sql, []⟩ := by
  have hfind (dialect : Dialect) : (names (tokens dialect crowdedPrices.toList)).find?
      (lacks priceBounds) = none := by
    cases dialect <;> decide +kernel
  have hnumbers : rewriting .sqlServer (tokens .sqlServer crowdedPrices.toList) =
      "a=@@Min@p1/@p2-@p1@ @[@Min]'@Name''x'@p2--@Min" := by
    decide +kernel
  have hdollars : rewriting .postgreSql (tokens .postgreSql crowdedPrices.toList) =
      "a=@@Min$1/$2-$1@ @[$1]'@Name''x'$2--@Min" := by
    decide +kernel
  obtain ⟨values, hserver, -⟩ := bind_ok (hfind .sqlServer)
  obtain ⟨others, hpostgres, -⟩ := bind_ok (hfind .postgreSql)
  exact ⟨⟨_, hserver, hnumbers, (bind_bound hserver).2 rfl⟩,
    _, hpostgres, hdollars, (bind_bound hpostgres).1 (by decide) .empty⟩

end SelectQuery.Binding
