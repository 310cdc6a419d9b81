import MishProxy.Cellular.Ownership

/-!
# Owned rules of a rule list

What the recognition of lines says about the rules of one RPDB: which tables the owned
lookups name, that the product's own additions are recognised, and what an addition or a
deletion does to the recognised rules.
-/

namespace MishProxy.Cellular

open Text Routing RootPolicyContract List

/-! ## Tables of owned lookups -/

theorem mem_foldl_insertNew {names tables : List Text} {name : Text} :
    name ∈ names.foldl insertNew tables ↔ name ∈ tables ∨ name ∈ names := by
  induction names generalizing tables with
  | nil => simp
  | cons first rest ih =>
    rw [foldl_cons, ih, insertNew]
    split
    · rename_i hmem
      constructor
      · rintro (h | h)
        · exact .inl h
        · exact .inr (.tail _ h)
      · rintro (h | h)
        · exact .inl h
        · rcases mem_cons.mp h with rfl | h
          · exact .inl hmem
          · exact .inr h
    · simp [or_assoc]

theorem nodup_foldl_insertNew {names tables : List Text} (h : tables.Nodup) :
    (names.foldl insertNew tables).Nodup := by
  induction names generalizing tables with
  | nil => exact h
  | cons first rest ih =>
    rw [foldl_cons]
    refine ih ?_
    unfold insertNew
    split
    · exact h
    · rename_i hnew
      rw [nodup_append]
      refine ⟨h, by simp, ?_⟩
      rintro a ha b hb rfl
      exact hnew (mem_singleton.mp hb ▸ ha)

variable {ns : RootPolicyNamespace} {ident : PolicyIdentity}

theorem nodup_ownedLookupTablesFor (lines) : (ownedLookupTablesFor lines ident).Nodup :=
  nodup_foldl_insertNew nodup_nil

theorem mem_ownedLookupTablesFor {lines tbl} : tbl ∈ ownedLookupTablesFor lines ident ↔
      ∃ line ∈ lines, ownedLookupTable line ident = some tbl := by
  unfold ownedLookupTablesFor
  rw [mem_foldl_insertNew, mem_filterMap]
  simp

theorem ownedLookupTablesFor_eq_nil_iff {lines} : ownedLookupTablesFor lines ident = [] ↔
      ∀ line ∈ lines, ownedLookupTable line ident = none := by
  rw [eq_nil_iff_forall_not_mem]
  constructor
  · intro h line hline
    cases htable : ownedLookupTable line ident with
    | none => rfl
    | some tbl => exact absurd (mem_ownedLookupTablesFor.mpr ⟨line, hline, htable⟩) (h tbl)
  · intro h tbl hmem
    obtain ⟨line, hline, htable⟩ := mem_ownedLookupTablesFor.mp hmem
    rw [h line hline] at htable
    cases htable

/-- One recognised table, from whichever lines, is named once. -/
theorem ownedLookupTablesFor_eq_singleton {lines tbl} (hall : ∀ line ∈ lines, ∀ other,
      ownedLookupTable line ident = some other → other = tbl)
    (hsome : ∃ line ∈ lines, ownedLookupTable line ident = some tbl) :
    ownedLookupTablesFor lines ident = [tbl] := by
  have hnames : ∀ names : List Text, (∀ name ∈ names, name = tbl) → ∀ tables : List Text,
      tables = [] ∨ tables = [tbl] → names ≠ [] ∨ tables = [tbl] →
      names.foldl insertNew tables = [tbl] := by
    intro names
    induction names with
    | nil => simp
    | cons first rest ih =>
      intro hnames tables htables _
      obtain ⟨rfl, hrest⟩ := forall_mem_cons.mp hnames
      rw [foldl_cons]
      rcases htables with rfl | rfl
      · exact ih hrest _ (.inr rfl) (.inr rfl)
      · refine ih hrest _ (.inr ?_) (.inr ?_) <;> simp [insertNew]
  unfold ownedLookupTablesFor
  refine hnames _ ?_ [] (.inl rfl) (.inl ?_)
  · intro name hname
    obtain ⟨line, hline, htable⟩ := mem_filterMap.mp hname
    exact hall line hline name htable
  · obtain ⟨line, hline, htable⟩ := hsome
    exact ne_nil_of_mem (mem_filterMap.mpr ⟨line, hline, htable⟩)

/-! ## The product's additions -/

theorem printable_of_between {low high c : Char} (hlow : low.val ≤ c.val)
    (hhigh : c.val ≤ high.val) (hfirst : 33 ≤ low.toNat) (hlast : high.toNat ≤ 126) :
    33 ≤ c.toNat ∧ c.toNat ≤ 126 :=
  ⟨Nat.le_trans hfirst (UInt32.le_iff_toNat_le.mp hlow),
    Nat.le_trans (UInt32.le_iff_toNat_le.mp hhigh) hlast⟩

theorem safeByte_range {c : Char} (h : safeByte c = true) : 33 ≤ c.toNat ∧ c.toNat ≤ 126 := by
  unfold safeByte at h
  simp only [Bool.or_eq_true, beq_iff_eq, Char.isAlphanum] at h
  rcases h with (((hletter | hdigit) | rfl) | rfl) | rfl
  · rcases Bool.or_eq_true_iff.mp hletter with hupper | hlower
    · obtain ⟨hlow, hhigh⟩ := of_decide_eq_true hupper
      exact printable_of_between hlow hhigh (by decide) (by decide)
    · obtain ⟨hlow, hhigh⟩ := Bool.and_eq_true_iff.mp hlower
      exact printable_of_between (of_decide_eq_true hlow) (of_decide_eq_true hhigh)
        (by decide) (by decide)
  · obtain ⟨hlow, hhigh⟩ := Bool.and_eq_true_iff.mp hdigit
    exact printable_of_between (of_decide_eq_true hlow) (of_decide_eq_true hhigh)
      (by decide) (by decide)
  all_goals decide

theorem isWord_of_isSafeTableToken {tbl : Text} (h : isSafeTableToken tbl = true) : IsWord tbl := by
  simp only [isSafeTableToken, isSafeName, Bool.and_eq_true, Bool.not_eq_true',
    isEmpty_eq_false_iff, all_eq_true] at h
  refine ⟨h.1.1, fun c hc => ?_⟩
  have hrange := safeByte_range (h.2 c hc)
  simp only [isWhitespace, Bool.or_eq_false_iff, Bool.and_eq_false_iff, beq_eq_false_iff_ne,
    decide_eq_false_iff_not]
  omega

theorem candidate_priorities {ident} (hid : ident ∈ ns.candidates) :
    ident.lookupPriority ≤ u32Max ∧ ident.guardPriority ≤ u32Max := by
  have hall : ∀ ident ∈ ns.candidates,
      ident.lookupPriority ≤ u32Max ∧ ident.guardPriority ≤ u32Max := by
    cases ns <;> decide
  exact hall ident hid

theorem ownedLookupTable_of_ownedGuard (hid : ident ∈ ns.candidates) {rule : RpdbRule}
    (h : lineIsOwnedGuardFor rule.line ident = true) : ownedLookupTable rule.line ident = none := by
  have hall : ∀ ident ∈ ns.candidates, ident.guardPriority ≠ ident.lookupPriority := by
    cases ns <;> decide
  cases htable : ownedLookupTable rule.line ident with
  | none => rfl
  | some tbl =>
    have hlook := ((ownedLookupTable_line_iff hid).mp htable).1
    rw [((ownedGuard_line_iff hid).mp h).1] at hlook
    exact absurd hlook (hall ident hid)

theorem isWord_markSpec (hid : ident ∈ ns.candidates) : IsWord (markSpec ident) := by
  have hall : ∀ ident ∈ ns.candidates, IsWord (markSpec ident) := by cases ns <;> decide
  exact hall ident hid

theorem selects_added {attributes : RuleAttributes} {rule : RpdbRule}
    (h : attributes.added = some rule) : attributes.selects rule = true := by
  obtain ⟨hprio, -, -, -, hmark, -, hactn, -⟩ := added_eq_some_iff.mp h
  simp [RuleAttributes.selects, hprio, hmark, hactn]

theorem guard_added (hid : ident ∈ ns.candidates) :
    ∃ rule, (guardAttributes ident).added = some rule ∧
      lineIsOwnedGuardFor rule.line ident = true := by
  have hvalid : (guardAttributes ident).priority ≤ u32Max ∧ IsWord (guardAttributes ident).fwmark ∧
      ∀ token ∈ (guardAttributes ident).action.tokens, IsWord token := by
    refine ⟨(candidate_priorities hid).2, isWord_markSpec hid, ?_⟩
    intro token htoken
    rw [mem_singleton.mp htoken]
    decide
  have hadded : ∃ rule, (guardAttributes ident).added = some rule := by
    rw [RuleAttributes.added, dif_pos hvalid]
    exact ⟨_, rfl⟩
  obtain ⟨rule, hrule⟩ := hadded
  exact ⟨rule, hrule, ownedGuard_of_selects hid (selects_added hrule)⟩

theorem lookup_added (hid : ident ∈ ns.candidates) {tbl : Text}
    (hsafe : isSafeTableToken tbl = true) : ∃ rule, (lookupAttributes ident tbl).added = some rule ∧
      ownedLookupTable rule.line ident = some tbl := by
  have hvalid : (lookupAttributes ident tbl).priority ≤ u32Max ∧
      IsWord (lookupAttributes ident tbl).fwmark ∧
      ∀ token ∈ (lookupAttributes ident tbl).action.tokens, IsWord token := by
    refine ⟨(candidate_priorities hid).1, isWord_markSpec hid, ?_⟩
    simp only [lookupAttributes, RpdbAction.tokens, forall_mem_cons]
    exact ⟨by decide, isWord_of_isSafeTableToken hsafe, by simp⟩
  have hadded : ∃ rule, (lookupAttributes ident tbl).added = some rule := by
    rw [RuleAttributes.added, dif_pos hvalid]
    exact ⟨_, rfl⟩
  obtain ⟨rule, hrule⟩ := hadded
  obtain ⟨hprio, hinv, hsrc, hbef, hmark, hafter, hactn, hmods⟩ := added_eq_some_iff.mp hrule
  refine ⟨rule, hrule, (ownedLookupTable_line_iff hid).mpr ⟨hprio, hmark, ?_, hsafe⟩⟩
  -- the keyword does not occur in front of the action
  have hstart : "lookup".toList ∉ [rule.priorityToken, "from".toList, "all".toList,
      "fwmark".toList, markSpec ident] := by
    simp only [mem_cons, not_mem_nil, or_false, not_or]
    exact ⟨Ne.symm (priorityToken_ne (by decide) (by decide)), by decide, by decide, by decide,
      Ne.symm (markSpec_ne hid (by decide))⟩
  have hsplit : rule.tokens = [rule.priorityToken, "from".toList, "all".toList,
      "fwmark".toList, markSpec ident] ++ rule.action.tokens :=
    tokens_of_plain hinv hsrc hmark hbef hafter hmods
  rw [hsplit, tokenAfter_append hstart, hactn]
  rfl

end MishProxy.Cellular
