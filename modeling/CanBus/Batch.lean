import CanBus.Frame

/-!
# Batches — what one transmission may carry, and who hears what of it

The rules are checked over the whole batch one after the other: it is not empty, no payload is empty, every
payload fits the adapter, and all frames carry the identifier of the first.  The identifier is compared as a
number: the format does not take part.
-/

namespace CanBus.Batch

/-- Refuses a batch that breaks a rule, with the first rule broken. -/
def check (frames : List Frame) (mtu : Nat) : Except Fault Unit :=
  match frames with
  | [] => .error (.contract .emptyBatch)
  | first :: _ =>
    if frames.any (·.payload.isEmpty) then .error (.contract .emptyPayload)
    else if frames.any (mtu < ·.payload.length) then .error (.contract .payloadOverMtu)
    else if frames.any (·.id != first.id) then .error (.contract .mixedIdentifiers)
    else .ok ()

theorem check_eq_ok_iff {frames : List Frame} {mtu : Nat} :
    check frames mtu = .ok () ↔
      frames ≠ [] ∧ (∀ frame ∈ frames, frame.payload ≠ []) ∧ (∀ frame ∈ frames, frame.payload.length ≤ mtu) ∧
        ∀ frame ∈ frames, ∀ other ∈ frames, frame.id = other.id := by
  cases frames with
  | nil => simp [check]
  | cons first rest =>
    have hsame : (∀ frame ∈ first :: rest, ∀ other ∈ first :: rest, frame.id = other.id) ↔
        ∀ frame ∈ first :: rest, frame.id = first.id := by
      constructor
      · exact fun h frame hframe => h frame hframe first (List.mem_cons_self ..)
      · exact fun h frame hframe other hother => (h frame hframe).trans (h other hother).symm
    rw [check, hsame]
    by_cases hempty : (first :: rest).any (·.payload.isEmpty) = true
    · rw [if_pos hempty]
      obtain ⟨frame, hframe, hnil⟩ := List.any_eq_true.1 hempty
      exact ⟨nofun, fun h => absurd (List.isEmpty_iff.1 hnil) (h.2.1 frame hframe)⟩
    · by_cases hlong : (first :: rest).any (mtu < ·.payload.length) = true
      · rw [if_neg hempty, if_pos hlong]
        obtain ⟨frame, hframe, hlt⟩ := List.any_eq_true.1 hlong
        have hle := decide_eq_true_iff.1 hlt
        exact ⟨nofun, fun h => absurd (h.2.2.1 frame hframe) (Nat.not_le.2 hle)⟩
      · rw [if_neg hempty, if_neg hlong]
        simp only [List.any_eq_true, not_exists, not_and] at hempty hlong
        by_cases hmixed : (first :: rest).any (·.id != first.id) = true
        · rw [if_pos hmixed]
          obtain ⟨frame, hframe, hne⟩ := List.any_eq_true.1 hmixed
          exact ⟨nofun, fun h => absurd (h.2.2.2 frame hframe) (bne_iff_ne.1 hne)⟩
        · rw [if_neg hmixed]
          simp only [List.any_eq_true, not_exists, not_and] at hmixed
          refine ⟨fun _ => ⟨List.cons_ne_nil _ _, fun frame hframe hnil => ?_, fun frame hframe => ?_,
            fun frame hframe => ?_⟩, fun _ => rfl⟩
          · exact hempty frame hframe (List.isEmpty_iff.2 hnil)
          · exact Nat.le_of_not_lt fun hlt => hlong frame hframe (decide_eq_true hlt)
          · exact Decidable.byContradiction fun hne => hmixed frame hframe (bne_iff_ne.2 hne)

/-- What is refused breaks a rule. -/
theorem check_eq_error {frames : List Frame} {mtu : Nat} {fault : Fault} (h : check frames mtu = .error fault) :
    ∃ breach, fault = .contract breach := by
  cases frames with
  | nil => exact ⟨.emptyBatch, (Except.error.inj h).symm⟩
  | cons first rest =>
    rw [check] at h
    by_cases hempty : (first :: rest).any (·.payload.isEmpty) = true
    · rw [if_pos hempty] at h
      exact ⟨.emptyPayload, (Except.error.inj h).symm⟩
    · rw [if_neg hempty] at h
      by_cases hlong : (first :: rest).any (mtu < ·.payload.length) = true
      · rw [if_pos hlong] at h
        exact ⟨.payloadOverMtu, (Except.error.inj h).symm⟩
      · rw [if_neg hlong] at h
        by_cases hmixed : (first :: rest).any (·.id != first.id) = true
        · rw [if_pos hmixed] at h
          exact ⟨.mixedIdentifiers, (Except.error.inj h).symm⟩
        · rw [if_neg hmixed] at h
          cases h

/-- The frames as others of this length hear them: those that fit, none of them as loopback. -/
def heard (frames : List Frame) (mtu : Nat) : List Frame :=
  (frames.filter (·.payload.length ≤ mtu)).map (·.tagged false)

/-- The frames that a sender hears back. -/
def echoed (frames : List Frame) : List Frame := (frames.filter (·.loopback)).map (·.tagged true)

theorem echoed_append (frames more : List Frame) : echoed (frames ++ more) = echoed frames ++ echoed more := by
  simp [echoed]

theorem echoed_singleton (frame : Frame) : echoed [frame] = if frame.loopback then [frame.tagged true] else [] := by
  cases h : frame.loopback <;> simp [echoed, h]

end CanBus.Batch
