import SelectQuery.Proofs.Query.Emission
import SelectQuery.Proofs.Specification.Validity

/-! Validation goes through a list of rules, which for every query at any depth holds the same
rules, and says what is broken first. -/

namespace SelectQuery

structure Rule where
  kept : Bool
  breach : Error

namespace Rule

def verdict (rules : List Rule) : Except Error Unit :=
  match rules.find? (!·.kept) with
  | none => .ok ()
  | some rule => .error rule.breach

lemma verdict_cons (rule : Rule) (rules : List Rule) :
    verdict (rule :: rules) = if rule.kept then verdict rules else .error rule.breach := by
  rw [verdict, List.find?_cons]
  cases rule.kept <;> rfl

lemma verdict_append (before after : List Rule) :
    verdict (before ++ after) = verdict before >>= fun _ => verdict after := by
  rw [verdict, verdict, List.find?_append]
  cases before.find? (!·.kept) <;> rfl

lemma verdict_eq_ok {rules : List Rule} :
    verdict rules = .ok () ↔ ∀ rule ∈ rules, rule.kept = true := by
  have hnone : verdict rules = .ok () ↔ rules.find? (!·.kept) = none := by
    rw [verdict]
    cases rules.find? (!·.kept) <;> simp
  simp [hnone]

lemma verdict_eq_error {rules : List Rule} {e : Error} : verdict rules = .error e ↔
    ∃ before rule after, rules = before ++ rule :: after ∧
      (∀ r ∈ before, r.kept = true) ∧ rule.kept = false ∧ rule.breach = e := by
  have hsome : verdict rules = .error e ↔
      ∃ rule, rules.find? (!·.kept) = some rule ∧ rule.breach = e := by
    rw [verdict]
    cases rules.find? (!·.kept) <;> simp
  rw [hsome]
  simp only [List.find?_eq_some_iff_append, Bool.not_not, Bool.not_eq_true']
  constructor
  · rintro ⟨rule, ⟨hbroken, before, after, hsplit, hbefore⟩, he⟩
    exact ⟨before, rule, after, hsplit, hbefore, hbroken, he⟩
  · rintro ⟨before, rule, after, hsplit, hbefore, hbroken, he⟩
    exact ⟨rule, ⟨hbroken, before, after, hsplit, hbefore⟩, he⟩

end Rule

namespace Specification

def textRule (argument text : String) : Rule := ⟨!Text.isBlank text, .blank argument⟩

lemma textRule_kept {argument text : String} :
    (textRule argument text).kept = true ↔ Text.isBlank text = false := by
  simp [textRule]

def clauseRule (text : String) : Rule := ⟨text.isEmpty || !Text.isBlank text, .blank "clause"⟩

lemma clauseRule_kept {text : String} :
    (clauseRule text).kept = true ↔ text = "" ∨ Text.isBlank text = false := by
  simp [clauseRule]

def pagingRules (skip take : Option UInt64) : List Rule :=
  let fits (n : UInt64) : Bool := n.toNat ≤ Int64.maxValue.toInt
  [⟨skip.isNone || take.isSome, .invalidArgument "take" "skip is set without take"⟩,
    ⟨take.isNone || skip.isSome, .invalidArgument "skip" "take is set without skip"⟩,
    ⟨take.all (1 ≤ ·.toNat), .outOfRange "take" 0 "must be positive"⟩,
    ⟨skip.all fits, .outOfRange "skip" Int64.maxValue.toInt "too large"⟩,
    ⟨take.all fits, .outOfRange "take" Int64.maxValue.toInt "too large"⟩]

lemma pagingRules_kept {skip take : Option UInt64} :
    (∀ rule ∈ pagingRules skip take, rule.kept = true) ↔
      (skip = none ∧ take = none) ∨ ∃ n m, skip = some n ∧ take = some m ∧
        1 ≤ m.toNat ∧ m.toNat ≤ Int64.maxValue.toInt ∧ n.toNat ≤ Int64.maxValue.toInt := by
  cases skip <;> cases take <;> simp [pagingRules, and_comm]

def rules (s : Specification) : List Rule :=
  s.clauseTexts.map clauseRule ++ pagingRules s.skip s.take ++
    (s.unions.attach.flatMap fun ⟨m, _⟩ => rules m.query) ++
    (s.source.toList.attach.flatMap fun ⟨d, _⟩ => textRule "alias" d.label :: rules d.query) ++
    s.ctes.attach.flatMap fun ⟨c, _⟩ => textRule "name" c.name :: rules c.query
termination_by sizeOf s
decreasing_by
  · exact sizeOf_member_lt ‹_›
  · exact sizeOf_source_lt (Option.mem_toList.mp ‹_›)
  · exact sizeOf_cte_lt ‹_›

lemma rules_eq (s : Specification) :
    s.rules = s.clauseTexts.map clauseRule ++ pagingRules s.skip s.take ++
      s.unions.flatMap (·.query.rules) ++
      s.source.toList.flatMap (fun d => textRule "alias" d.label :: d.query.rules) ++
      s.ctes.flatMap fun c => textRule "name" c.name :: c.query.rules := by
  rw [rules, flatMap_attach _ fun m : UnionMember Specification => m.query.rules,
    flatMap_attach _ fun d : DerivedTable Specification =>
      textRule "alias" d.label :: d.query.rules,
    flatMap_attach _ fun c : CommonTable Specification => textRule "name" c.name :: c.query.rules]

section Validation

open Rule (verdict verdict_append verdict_cons)

lemma requireText_eq_verdict (argument text : String) (rules : List Rule) :
    (requireText text argument >>= fun _ => verdict rules) =
      verdict (textRule argument text :: rules) := by
  rw [verdict_cons, requireText, textRule]
  cases Text.isBlank text <;> rfl

lemma checkClauses_eq_verdict (texts : List String) :
    checkClauses texts = verdict (texts.map clauseRule) := by
  induction texts with
  | nil => rfl
  | cons text texts ih =>
    rw [checkClauses, List.map_cons, verdict_cons, clauseRule, ih]
    cases text.isEmpty with
    | true => rfl
    | false =>
      rw [requireText]
      cases Text.isBlank text <;> rfl

lemma checkPaging_eq_verdict (skip take : Option UInt64) :
    checkPaging skip take = verdict (pagingRules skip take) := by
  cases skip with
  | none => cases take <;> rfl
  | some skip =>
    cases take with
    | none => rfl
    | some take =>
      have hzero : take = 0 ↔ ¬ 1 ≤ take.toNat := by
        rw [← UInt64.toNat_inj, UInt64.toNat_zero]
        omega
      have hlarge (n : UInt64) : signedLimit ≤ n.toNat ↔ ¬ n.toNat ≤ Int64.maxValue.toInt := by
        rw [signedLimit, Int64.toInt_maxValue]
        omega
      simp only [checkPaging, hzero, hlarge, ite_not, pagingRules, verdict_cons, Option.isSome_some,
        Option.isNone_some, Bool.false_or, Option.all_some, decide_eq_true_eq, if_true]
      rfl

lemma validateMembers_eq_verdict {ms : List (UnionMember Specification)}
    (ih : ∀ m ∈ ms, m.query.validate = verdict m.query.rules) :
    validateMembers ms = verdict (ms.flatMap (·.query.rules)) := by
  induction ms with
  | nil => rfl
  | cons m ms ihms =>
    obtain ⟨ihm, ihrest⟩ := List.forall_mem_cons.mp ih
    rw [validateMembers, ihm, ihms ihrest, List.flatMap_cons, verdict_append]

lemma validateSource_eq_verdict {source : Option (DerivedTable Specification)}
    (ih : ∀ d ∈ source, d.query.validate = verdict d.query.rules) :
    validateSource source =
      verdict (source.toList.flatMap fun d => textRule "alias" d.label :: d.query.rules) := by
  cases source with
  | none => rfl
  | some d =>
    rw [validateSource, ih d rfl, requireText_eq_verdict, Option.toList_some,
      List.flatMap_singleton]

lemma validateCtes_eq_verdict {cs : List (CommonTable Specification)}
    (ih : ∀ c ∈ cs, c.query.validate = verdict c.query.rules) :
    validateCtes cs =
      verdict (cs.flatMap fun c => textRule "name" c.name :: c.query.rules) := by
  induction cs with
  | nil => rfl
  | cons c cs ihcs =>
    obtain ⟨ihc, ihrest⟩ := List.forall_mem_cons.mp ih
    rw [validateCtes, ihc, ihcs ihrest, List.flatMap_cons, List.cons_append,
      ← requireText_eq_verdict]
    simp only [verdict_append]

theorem validate_eq_verdict (s : Specification) : s.validate = verdict s.rules := by
  induction s using inductionOn with
  | step s hunions hsource hctes =>
    rw [validate_eq, rules_eq, checkClauses_eq_verdict, checkPaging_eq_verdict,
      validateMembers_eq_verdict hunions, validateSource_eq_verdict hsource,
      validateCtes_eq_verdict hctes]
    simp only [verdict_append, List.append_assoc]

/-- What is nested in a member comes before what stands in place of the table. -/
example :
    validate {
      unions := [⟨{ ctes := [⟨"c", { skip := some 5 }⟩] }, false⟩]
      source := some ⟨{ filter := " " }, ""⟩ } =
      .error (.invalidArgument "take" "skip is set without take") := rfl

end Validation

structure Keeps (t : Specification) : Prop where
  clauses : ∀ text ∈ t.clauseTexts, text = "" ∨ Text.isBlank text = false
  paging : (t.skip = none ∧ t.take = none) ∨ ∃ skip take, t.skip = some skip ∧ t.take = some take ∧
    1 ≤ take.toNat ∧ take.toNat ≤ Int64.maxValue.toInt ∧ skip.toNat ≤ Int64.maxValue.toInt
  label : ∀ d ∈ t.source, Text.isBlank d.label = false
  names : ∀ c ∈ t.ctes, Text.isBlank c.name = false

section Keeping

variable {s : Specification}

lemma forall_rules_iff : (∀ rule ∈ s.rules, rule.kept = true) ↔
    Keeps s ∧ ∀ q ∈ s.parts, ∀ rule ∈ q.rules, rule.kept = true := by
  rw [rules_eq s]
  simp only [List.forall_mem_append, List.forall_mem_flatMap, List.forall_mem_cons,
    List.forall_mem_map, Option.mem_toList, clauseRule_kept, textRule_kept, pagingRules_kept, parts]
  constructor
  · rintro ⟨⟨⟨⟨hclauses, hpaging⟩, hunions⟩, hsource⟩, hctes⟩
    exact ⟨⟨hclauses, hpaging, fun d hd => (hsource d hd).1, fun c hc => (hctes c hc).1⟩,
      ⟨hunions, fun d hd => (hsource d hd).2⟩, fun c hc => (hctes c hc).2⟩
  · rintro ⟨h, ⟨hunions, hsource⟩, hctes⟩
    exact ⟨⟨⟨⟨h.clauses, h.paging⟩, hunions⟩, fun d hd => ⟨h.label d hd, hsource d hd⟩⟩,
      fun c hc => ⟨h.names c hc, hctes c hc⟩⟩

lemma forall_nested_iff {P : Specification → Prop} :
    (∀ t, Nested s t → P t) ↔ P s ∧ ∀ q ∈ s.parts, ∀ t, Nested q t → P t := by
  constructor
  · exact fun h => ⟨h s .self, fun q hq t ht => h t (.part hq ht)⟩
  · rintro ⟨hs, hparts⟩ t ht
    cases ht with
    | self => exact hs
    | part hq ht => exact hparts _ hq t ht

theorem validate_ok_iff_nested : s.validate = .ok () ↔ ∀ t, Nested s t → Keeps t := by
  rw [validate_eq_verdict, Rule.verdict_eq_ok]
  induction s using inductionOn with
  | step s hunions hsource hctes =>
    rw [forall_rules_iff, forall_nested_iff]
    refine and_congr_right fun _ => forall₂_congr fun q hq => ?_
    rcases mem_parts.mp hq with ⟨m, hm, rfl⟩ | ⟨d, hd, rfl⟩ | ⟨c, hc, rfl⟩
    · exact hunions m hm
    · exact hsource d hd
    · exact hctes c hc

end Keeping

end Specification

end SelectQuery
