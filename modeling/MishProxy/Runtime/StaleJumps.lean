import MishProxy.Runtime.Trace

/-!
# Jumps of former uids

The bootstrap deletes the jumps of former uids that a listing shows, and only when every line of
that listing that names the product chain is the product's own. Nothing is assumed of the answers.
-/

namespace MishProxy.Runtime

open Text Cellular Effects Effects.Exec Session RootPolicyContract List

/-- The lines are the exact product lines of one candidate, the one definition of the chain, and
jumps of owners to it, as far as they name the chain. -/
def KnownLines (contract : RootPolicyContract) (family : Family) (lines : List Text) : Prop :=
  (lines.filter fun line => line == contract.chainDefinition).length = 1 ∧
    ∃ identity ∈ contract.candidates,
      chainLines lines contract.chainName = contract.ownedChainLinesFor family identity ∧
      ∀ line ∈ lines, contains line contract.chainName = true →
        line = contract.chainDefinition ∨ line ∈ contract.ownedChainLinesFor family identity ∨
          ∃ uid, contract.exactOwnerJumpUid line = some uid

/-- The command deletes a jump of another uid in the listing that was read last, whose lines are
known. -/
def DeletesLeftover (contract : RootPolicyContract) (past : List PolicyEvent)
    (command : PolicyCommand) : Prop :=
  ∃ family uid older result deletes,
    past = older ++ .raw (.mangleShow family) (.ok result) :: deletes ∧
    (∀ event ∈ deletes, ∃ command answer, event = .mutated command answer) ∧
    command = staleOwnerJumpDelete contract family uid ∧ uid ≠ contract.productUid ∧
    (∃ line ∈ parseLines result.stdout, contract.exactOwnerJumpUid line = some uid) ∧
    KnownLines contract family (parseLines result.stdout)

variable {con : RootPolicyContract} {lines : List Text}

theorem mem_staleOwnerJumpUids {uid} : uid ∈ con.staleOwnerJumpUids lines ↔
    uid ≠ con.productUid ∧ ∃ line ∈ lines, con.exactOwnerJumpUid line = some uid := by
  have hfold (new uids : List Nat) : uid ∈ new.foldl (fun uids uid =>
      if uid ∈ uids then uids else uids ++ [uid]) uids ↔ uid ∈ uids ∨ uid ∈ new := by
    induction new generalizing uids with
    | nil => simp
    | cons other rest ih => grind
  rw [staleOwnerJumpUids, hfold, mem_filter, mem_filterMap, bne_iff_ne, and_comm]
  simp

theorem knownLines_of_exact {fam} (h : con.isExactKnownProductState lines fam = true) :
    KnownLines con fam lines := by
  simp only [isExactKnownProductState, Bool.and_eq_true, beq_iff_eq, all_eq_true,
    mem_filter, Bool.or_eq_true, contains_iff_mem, Option.isSome_iff_exists] at h
  obtain ⟨⟨hdef, hone⟩, hlines⟩ := h
  obtain ⟨ident, hident⟩ := length_pos_iff_exists_mem.mp (hone ▸ Nat.one_pos)
  rw [mem_filter, beq_iff_eq] at hident
  refine ⟨hdef, ident, hident.1, hident.2, fun line hline hnames => ?_⟩
  rw [← hident.2, ← or_assoc]
  exact hlines line ⟨hline, hnames⟩

/-- The run has read no listing and has deleted nothing but leftover jumps. -/
structure Probing (contract : RootPolicyContract) (trace : List PolicyEvent) : Prop where
  deletes : EveryMutation (DeletesLeftover contract) trace
  noListing : NoListing trace

namespace Probing

theorem nil : Probing con [] where
  deletes past _ _ _ heq := by cases past <;> cases heq
  noListing _ _ hmem := by cases hmem

theorem append {trace ev} (h : Probing con trace)
    (hevent : ∀ cmd ans, ev = .mutated cmd ans → DeletesLeftover con trace cmd)
    (hlisted : ∀ cmd ans, ev ≠ .listed cmd ans) : Probing con (trace ++ [ev]) where
  deletes := h.deletes.append hevent
  noListing cmd ans hmem := by
    rcases mem_append.mp hmem with hmem | hmem
    · exact h.noListing cmd ans hmem
    · exact hlisted cmd ans (mem_singleton.mp hmem).symm

end Probing

variable {σ ε : Type} {io : RootPolicyIo σ} {fam : Family} {t : Traced σ}

theorem ends_readMangleRaw_traced (h : Probing con t.trace) : Ends (readMangleRaw (traced io) fam)
      (fun lines t' => Probing con t'.trace ∧ ∃ res,
        lines = parseLines res.stdout ∧ t'.trace = t.trace ++ [.raw (.mangleShow fam) (.ok res)])
      (fun _ => OnTrace (Probing con)) t := by
  have hraw (ans) : Probing con (t.trace ++ [.raw (.mangleShow fam) ans]) :=
    h.append (by simp) (by simp)
  unfold readMangleRaw
  rw [ends_bind, ends_mapError]
  refine ends_record (fun res world => ?_) fun _ _ => hraw _
  rw [ends_ite]
  exact ⟨fun _ => ⟨hraw _, res, rfl, rfl⟩, fun _ => hraw _⟩

theorem probing_bootstrapFamily :
    Keeps (OnTrace (Probing con)) (bootstrapFamily (traced io) con fam) := by
  intro t ht
  unfold bootstrapFamily
  refine .bind (ends_readMangleRaw_traced ht) ?_
  rintro _ read ⟨hread, res, rfl, htrace⟩
  rw [ends_ite, Bool.or_eq_true, not_or]
  refine ⟨fun _ => hread, fun hguard => ?_⟩
  have hknown := knownLines_of_exact (by simpa using hguard.2)
  rw [ends_bind]
  -- Behind the listing there are only deletes, so each delete finds it as the last thing read.
  refine ends_forEach (fun uids t => Probing con t.trace ∧
    (∀ uid ∈ uids, uid ∈ con.staleOwnerJumpUids (parseLines res.stdout)) ∧
    ∃ older deletes, t.trace = older ++ .raw (.mangleShow fam) (.ok res) :: deletes ∧
      ∀ ev ∈ deletes, ∃ cmd ans, ev = .mutated cmd ans) ?_ ?_ _ read
    ⟨hread, fun _ => id, t.trace, [], htrace, by simp⟩
  · rintro uid rest t ⟨hdone, hstale, older, deletes, hpast, hdeletes⟩
    obtain ⟨hoth, hlisted⟩ := mem_staleOwnerJumpUids.mp (hstale uid (.head _))
    have hnext (ans) : Probing con
        (t.trace ++ [.mutated (staleOwnerJumpDelete con fam uid) ans]) := by
      refine hdone.append ?_ (by simp)
      simp
      exact ⟨fam, uid, older, res, deletes, hpast, hdeletes, rfl, hoth, hlisted, hknown⟩
    rw [ends_mapError]
    refine ends_record (fun ans world => ⟨hnext _, fun other hmem => ?_, older,
      deletes ++ [.mutated (staleOwnerJumpDelete con fam uid) (.ok ans)], ?_, ?_⟩)
      fun _ _ => hnext _
    · exact hstale other (.tail _ hmem)
    · rw [hpast, append_assoc, cons_append]
    · intro ev hmem
      rcases mem_append.mp hmem with hmem | hmem
      · exact hdeletes ev hmem
      · exact ⟨_, _, mem_singleton.mp hmem⟩
  · rintro t ⟨hdone, -⟩
    refine .bind (ends_readMangleRaw_traced hdone) ?_
    exact fun after t hafter => Keeps.ite (.pure _) (.fail _) t hafter.1

/-- Whatever the device answers, each delete of the bootstrap names a jump of another uid that the
listing read before shows, and every line of that listing that names the chain is known. -/
theorem bootstrap_deletes_leftovers (io : RootPolicyIo σ) (contract : RootPolicyContract)
    (world : σ) :
    EveryMutation (DeletesLeftover contract)
      ((bootstrapStaleOwnerJumps (traced io) contract : Exec (Traced σ) ε Bool)
        ⟨world, []⟩).2.trace := by
  have hkeeps : Keeps (OnTrace (Probing contract))
      (bootstrapStaleOwnerJumps (traced io) contract : Exec (Traced σ) ε Bool) := by
    refine .bind (.attempt (.bind probing_bootstrapFamily fun _ => probing_bootstrapFamily)) ?_
    intro result
    split
    · exact .pure _
    · exact .pure _
  have hprobing : Probing contract _ := (hkeeps ⟨world, []⟩ .nil).state
  exact hprobing.deletes

end MishProxy.Runtime
