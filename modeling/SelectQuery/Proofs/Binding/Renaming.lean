import Mathlib.Logic.Equiv.Basic
import SelectQuery.Proofs.Binding.Numbering
import SelectQuery.Proofs.Binding.Substitution

/-! Names of parameters matter by their equality only. -/

namespace SelectQuery.Binding

def Token.renamed (rename : String → String) : Token → Token
  | .parameter name => .parameter (rename (String.ofList name)).toList
  | token => token

def renamed (dialect : Dialect) (rename : String → String) (sql : String) : String :=
  String.ofList (((tokens dialect sql.toList).map (Token.renamed rename)).flatMap Token.source)

def KeepsIdentifiers (rename : String → String) : Prop :=
  ∀ name, Text.IsIdentifier name.toList → Text.IsIdentifier (rename name).toList

variable {dialect : Dialect} {rename : String → String} {ts : List Token}

lemma parameter?_renamed (rename : String → String) (token : Token) :
    (token.renamed rename).parameter? = token.parameter?.map rename := by
  cases token with
  | parameter name => exact congrArg some String.ofList_toList
  | quoted | lineComment | blockComment | system | other => rfl

lemma source_renamed {token : Token} (h : token.parameter? = none) :
    (token.renamed rename).source = token.source := by
  cases token with
  | parameter name => cases h
  | quoted | lineComment | blockComment | system | other => rfl

lemma names_renamed (rename : String → String) (ts : List Token) :
    names (ts.map (Token.renamed rename)) = (names ts).map rename := by
  rw [names, names, List.filterMap_map, List.map_filterMap]
  exact congrArg (List.filterMap · ts) (funext (parameter?_renamed rename))

lemma substitute_parameter {name : List Char} (h : Text.IsIdentifier name) :
    Substitute dialect [.parameter name] := by
  refine ⟨⟨'@', rfl, rfl⟩, fun rest hrest => ?_⟩
  rw [List.flatMap_singleton]
  exact tokens_source_append ⟨h, hrest⟩

lemma map_renamed (rename : String → String) (ts : List Token) :
    ts.map (Token.renamed rename) =
      substituted (fun name => [.parameter (rename (String.ofList name)).toList]) ts := by
  rw [substituted, List.map_eq_flatMap]
  refine List.flatMap_congr fun token _ => ?_
  cases token <;> rfl

lemma tokens_renamed (h : KeepsIdentifiers rename) (sql : String) :
    tokens dialect (renamed dialect rename sql).toList =
      (tokens dialect sql.toList).map (Token.renamed rename) := by
  rw [renamed, String.toList_ofList, map_renamed]
  refine tokens_substituted (fun name hname => substitute_parameter (h _ ?_)) sql.toList
  rwa [String.toList_ofList]

lemma fill_renamed (text : Nat → List Char) (rename : String → String) (ts : List Token)
    (numbers : List Nat) :
    fill text (ts.map (Token.renamed rename)) numbers = fill text ts numbers := by
  induction ts generalizing numbers with
  | nil => rfl
  | cons token ts ih =>
    rw [List.map_cons, fill, fill, parameter?_renamed]
    cases hp : token.parameter? with
    | none => simp only [Option.map_none, source_renamed hp, ih]
    | some name => simp only [Option.map_some, ih]

section Injective

variable {α β : Type} [DecidableEq α] [DecidableEq β]

lemma idxOf_map {f : α → β} {as : List α} {a : α} (hf : ∀ b ∈ as, f b = f a → b = a)
    (ha : a ∈ as) : (as.map f).idxOf (f a) = as.idxOf a := by
  induction as with
  | nil => cases ha
  | cons b as ih =>
    rw [List.map_cons, List.idxOf_cons, List.idxOf_cons]
    by_cases hb : b = a
    · simp [hb]
    · have hfb : f b ≠ f a := fun h => hb (hf b List.mem_cons_self h)
      have hmem : a ∈ as := (List.mem_cons.mp ha).resolve_left (Ne.symm hb)
      rw [beq_false_of_ne hb, beq_false_of_ne hfb,
        ih (fun c hc => hf c (List.mem_cons_of_mem _ hc)) hmem]

end Injective

lemma number_map {ns : List String} (hinj : ∀ m ∈ ns, ∀ n ∈ ns, rename m = rename n → m = n)
    {name : String} (h : name ∈ ns) :
    number (ns.map rename) (rename name) = number ns name := by
  rw [number, number, eraseDups_map hinj, idxOf_map ?_ (List.mem_eraseDups.mpr h)]
  exact fun other hother => hinj other (List.mem_eraseDups.mp hother) name h

lemma boundNames_map {ns : List String}
    (hinj : ∀ m ∈ ns, ∀ n ∈ ns, rename m = rename n → m = n) :
    boundNames dialect (ns.map rename) = (boundNames dialect ns).map rename := by
  unfold boundNames
  split
  · exact eraseDups_map hinj
  · rfl

lemma rewriting_renamed (hinj : ∀ m ∈ names ts, ∀ n ∈ names ts, rename m = rename n → m = n) :
    rewriting dialect (ts.map (Token.renamed rename)) = rewriting dialect ts := by
  rw [rewriting_eq_fill, rewriting_eq_fill, fill_renamed, names_renamed, List.map_map]
  congr 2
  exact List.map_congr_left fun name hname => number_map hinj hname

lemma find?_lacks_map {parameters others : Parameters} {ns : List String}
    (h : ∀ name ∈ ns, others.get? (rename name) = parameters.get? name) :
    (ns.map rename).find? (lacks others) = (ns.find? (lacks parameters)).map rename := by
  rw [List.find?_map]
  congr 1
  induction ns with
  | nil => rfl
  | cons name ns ih =>
    obtain ⟨hname, hns⟩ := List.forall_mem_cons.mp h
    have hlacks : (lacks others ∘ rename) name = lacks parameters name := by
      rw [Function.comp_apply, lacks, lacks, hname]
    rw [List.find?_cons, List.find?_cons, hlacks, ih hns]

lemma bind_renamed_of_names {sql : String} {parameters others : Parameters}
    (hkeeps : KeepsIdentifiers rename)
    (hinj : ∀ m ∈ names (tokens dialect sql.toList), ∀ n ∈ names (tokens dialect sql.toList),
      rename m = rename n → m = n)
    (hothers : ∀ name ∈ names (tokens dialect sql.toList),
      others.get? (rename name) = parameters.get? name) :
    (∃ name, bind sql parameters dialect = .error (.missingParameter name) ∧
      bind (renamed dialect rename sql) others dialect =
        .error (.missingParameter (rename name))) ∨
    ∃ bound, bind sql parameters dialect = .ok bound ∧
      bind (renamed dialect rename sql) others dialect = .ok bound := by
  have htokens : tokens dialect (renamed dialect rename sql).toList = _ :=
    tokens_renamed hkeeps sql
  have hnames : names (tokens dialect (renamed dialect rename sql).toList) =
      (names (tokens dialect sql.toList)).map rename := by
    rw [htokens, names_renamed]
  have hfind := find?_lacks_map hothers
  rw [← hnames] at hfind
  cases hmissing : (names (tokens dialect sql.toList)).find? (lacks parameters) with
  | some name =>
    rw [hmissing] at hfind
    exact Or.inl ⟨name, bind_missing hmissing, bind_missing hfind⟩
  | none =>
    rw [hmissing] at hfind
    obtain ⟨values, hbind, hvalues⟩ := bind_ok hmissing
    obtain ⟨others', hbind', hothers'⟩ := bind_ok hfind
    have hsame : others'.map some = values.map some := by
      rw [hothers', hnames, boundNames_map hinj, List.map_map, hvalues]
      exact List.map_congr_left fun name hname => hothers name (mem_boundNames.mp hname)
    rw [htokens, rewriting_renamed hinj, eq_of_map_some hsame] at hbind'
    exact Or.inr ⟨_, hbind, hbind'⟩

theorem bind_renamed (dialect : Dialect) (sql : String) {rename : String → String}
    (hkeeps : KeepsIdentifiers rename)
    (hinj : ∀ m n, Text.IsIdentifier m.toList → Text.IsIdentifier n.toList →
      rename m = rename n → m = n)
    {parameters others : Parameters}
    (hothers : ∀ name ∈ names (tokens dialect sql.toList),
      others.get? (rename name) = parameters.get? name) :
    (∀ bound, bind sql parameters dialect = .ok bound →
      bind (renamed dialect rename sql) others dialect = .ok bound) ∧
    ∀ name, bind sql parameters dialect = .error (.missingParameter name) →
      bind (renamed dialect rename sql) others dialect =
        .error (.missingParameter (rename name)) := by
  have hid : ∀ name ∈ names (tokens dialect sql.toList), Text.IsIdentifier name.toList :=
    fun name hname => isIdentifier_of_mem_names (tokenisation_tokens dialect sql.toList) hname
  have hnames : ∀ m ∈ names (tokens dialect sql.toList),
      ∀ n ∈ names (tokens dialect sql.toList), rename m = rename n → m = n :=
    fun m hm n hn => hinj m n (hid m hm) (hid n hn)
  obtain ⟨missing, hbind, hrenamed⟩ | ⟨bound, hbind, hrenamed⟩ :=
    bind_renamed_of_names hkeeps hnames hothers
  · rw [hbind, hrenamed]
    refine ⟨nofun, fun name h => ?_⟩
    cases h
    rfl
  · rw [hbind, hrenamed]
    exact ⟨fun _ h => h, nofun⟩

def exchanged : String → String := Equiv.swap "Min" "Name"

lemma keepsIdentifiers_exchanged : KeepsIdentifiers exchanged := by
  intro name hname
  rw [exchanged, Equiv.swap_apply_def]
  split
  · exact ⟨by decide +kernel, by decide +kernel⟩
  · split
    · exact ⟨by decide +kernel, by decide +kernel⟩
    · exact hname

def exchangedBounds : Parameters :=
  (NameMap.empty.insert "Name" (.int 10)).insert "Min" (.text "a")

theorem bind_renamed_exchanged :
    renamed .postgreSql exchanged boundedPrices =
      "SELECT '$1 @Min' FROM t WHERE a > @Name AND b = @Min OR c > @Name" ∧
    (∃ bound, bind boundedPrices priceBounds .postgreSql = .ok bound ∧
      bind (renamed .postgreSql exchanged boundedPrices) exchangedBounds .postgreSql =
        .ok bound) ∧
    bind boundedPrices .empty .postgreSql = .error (.missingParameter "Min") ∧
      bind (renamed .postgreSql exchanged boundedPrices) .empty .postgreSql =
        .error (.missingParameter "Name") := by
  have hnames : names (tokens .postgreSql boundedPrices.toList) = ["Min", "Name", "Min"] := by
    decide +kernel
  have hinj : ∀ m n, Text.IsIdentifier m.toList → Text.IsIdentifier n.toList →
      exchanged m = exchanged n → m = n :=
    fun m n _ _ h => (Equiv.swap "Min" "Name").injective h
  have hvalues : ∀ name ∈ names (tokens .postgreSql boundedPrices.toList),
      exchangedBounds.get? (exchanged name) = priceBounds.get? name := by
    rw [hnames]
    simp only [List.forall_mem_cons]
    exact ⟨rfl, rfl, rfl, nofun⟩
  have hfound := (bind_renamed .postgreSql boundedPrices keepsIdentifiers_exchanged hinj hvalues).1
  have hmissing := (@bind_renamed .postgreSql boundedPrices exchanged keepsIdentifiers_exchanged
    hinj .empty .empty fun _ _ => rfl).2
  have hbound : (names (tokens .postgreSql boundedPrices.toList)).find? (lacks priceBounds) =
      none := by
    decide +kernel
  have hnone : bind boundedPrices .empty .postgreSql = .error (.missingParameter "Min") := by
    apply bind_missing
    decide +kernel
  obtain ⟨values, hbind, -⟩ := bind_ok hbound
  exact ⟨by decide +kernel, ⟨_, hbind, hfound _ hbind⟩, hnone, hmissing "Min" hnone⟩

end SelectQuery.Binding
