import CanBus.Proofs.Acceptance.Steps

/-!
# Ranks — when a step merges across formats

A filter of one format ranks by the bits that it demands, from zero up; a filter that takes both formats ranks from zero
down (`rank_of_format`, `rank_of_agnostic`).  The two ranges meet at zero, so while two filters share a format a step
takes a filter for both formats on this tie only (`agnostic_iff_tie`).
-/

namespace CanBus

/-! ## The two ranges -/

namespace Filter

theorem demands_le_width (filter : Filter) : filter.demands ≤ filter.width := by
  have h : filter.demands ≤ (List.range filter.width).length := List.countP_le_length
  simpa using h

theorem rank_of_format {filter : Filter} (h : filter.format ≠ none) : filter.rank = filter.demands := by
  rw [rank, if_neg (by simpa using h)]

theorem rank_of_agnostic {filter : Filter} (h : filter.format = none) :
    filter.rank = (filter.demands : Int) - filter.width := by
  rw [rank, if_pos (by simpa using h)]

theorem rank_nonneg {filter : Filter} (h : filter.format ≠ none) : 0 ≤ filter.rank := by
  rw [rank_of_format h]
  omega

theorem rank_nonpos {filter : Filter} (h : filter.format = none) : filter.rank ≤ 0 := by
  have hle := filter.demands_le_width
  rw [rank_of_agnostic h]
  omega

/-- Among filters with the same format the rank goes by the demands. -/
theorem rank_le_iff_demands {a b : Filter} (h : a.format = b.format) : a.rank ≤ b.rank ↔ a.demands ≤ b.demands := by
  have hwidth : a.width = b.width := by rw [width, width, h]
  by_cases hnone : a.format = none
  · rw [rank_of_agnostic hnone, rank_of_agnostic (h ▸ hnone)]
    omega
  · rw [rank_of_format hnone, rank_of_format (h ▸ hnone)]
    omega

end Filter

/-! ## The tie -/

namespace Reduction

/-- Filters at two positions take frames of the same one format. -/
def SharesFormat (filters : List Filter) : Prop :=
  ∃ (i j : Nat) (a b : Filter) (format : IdFormat), i ≠ j ∧ filters[i]? = some a ∧ filters[j]? = some b ∧
    a.format = some format ∧ b.format = some format

/-- The tie at rank zero: no two filters of one format share a demand, and before all of them the scan meets a pair
whose merge takes both formats and demands every bit. -/
structure Tie (filters : List Filter) : Prop where
  unspecific : ∀ c ∈ candidates filters, c.merged.format ≠ none → c.merged.demands = 0
  exact_first : ∃ c ∈ candidates filters, c.merged.format = none ∧ c.merged.demands = c.merged.width ∧
    ∀ d ∈ candidates filters, d.merged.format ≠ none → c.Before d

theorem SharesFormat.exists_candidate {filters : List Filter} (h : SharesFormat filters) :
    ∃ c ∈ candidates filters, c.merged.format ≠ none := by
  obtain ⟨i, j, a, b, format, hij, ha, hb, hfa, hfb⟩ := h
  refine ⟨⟨i, j, a.merge b⟩, mem_candidates.2 ⟨a, b, ha, hb, hij, rfl⟩, ?_⟩
  rw [Filter.format_merge_of_eq hfa hfb]
  simp

/-- A filter for both formats that is chosen beside one of a single format is on the tie. -/
theorem Foremost.tie {filters : List Filter} {chosen c : Candidate} (h : Foremost (candidates filters) chosen)
    (hchosen : chosen.merged.format = none) (hmem : c ∈ candidates filters) (hformat : c.merged.format ≠ none) :
    Tie filters := by
  obtain ⟨hin, hforemost⟩ := h
  have hnonpos := Filter.rank_nonpos hchosen
  -- every merge of one format ranks zero, as high as the chosen one
  have hzero : ∀ d ∈ candidates filters, d.merged.format ≠ none → d.merged.rank = 0 ∧ chosen.merged.rank = 0 := by
    intro d hd hdformat
    have hnonneg := Filter.rank_nonneg hdformat
    have hle := (hforemost d hd).1
    omega
  refine ⟨fun d hd hdformat => ?_, chosen, hin, hchosen, ?_, fun d hd hdformat => ?_⟩
  · have hrank := (hzero d hd hdformat).1
    rw [Filter.rank_of_format hdformat] at hrank
    omega
  · have hrank := (hzero c hmem hformat).2
    rw [Filter.rank_of_agnostic hchosen] at hrank
    omega
  · obtain ⟨hd0, hc0⟩ := hzero d hd hdformat
    rcases (hforemost d hd).2 (by omega) with rfl | hbefore
    · exact absurd hchosen hdformat
    · exact hbefore

/-- On the tie no filter of a single format is chosen: the pair that takes both formats was met before it. -/
theorem Tie.format_eq_none {filters : List Filter} {chosen : Candidate} (htie : Tie filters)
    (h : Foremost (candidates filters) chosen) : chosen.merged.format = none := by
  by_contra hformat
  obtain ⟨c, hc, hcformat, hdemands, hfirst⟩ := htie.exact_first
  have hrank : c.merged.rank = chosen.merged.rank := by
    rw [Filter.rank_of_agnostic hcformat, Filter.rank_of_format hformat, htie.unspecific chosen h.1 hformat, hdemands]
    omega
  rcases (h.2 c hc).2 hrank with rfl | hbefore
  · exact hformat hcformat
  · exact hbefore.asymm (hfirst chosen h.1 hformat)

/-- **Merging across formats is the last resort but for one tie.**  While two filters of the list share a format, the
merge that a step takes has a format, unless all such pairs share no demand and a pair that takes both formats and
demands every bit comes before them in the scan.  On that tie the filter for both formats is taken. -/
theorem agnostic_iff_tie (filters : List Filter) (target : Nat) :
    ∀ step ∈ steps filters target, SharesFormat step.filters →
      (step.chosen.merged.format = none ↔ Tie step.filters) := by
  intro step hstep hshares
  have hforemost := best?_eq_some_iff.1 (best?_of_mem_steps hstep).2
  obtain ⟨c, hc, hformat⟩ := hshares.exists_candidate
  exact ⟨fun hnone => hforemost.tie hnone hc hformat, fun htie => htie.format_eq_none hforemost⟩

/-- Two base filters for one identifier each, and an extended one. -/
def neighbours : List Filter :=
  [⟨0x100, 0x7FF, some .base⟩, ⟨0x101, 0x7FF, some .base⟩, ⟨0x1234, 0x1FFFFFFF, some .extended⟩]

/-- `agnostic_iff_tie` where the pair of one format shares a demand. -/
theorem agnostic_iff_tie_neighbours :
    (⟨neighbours, ⟨0, 1, ⟨0x100, 0x7FE, some .base⟩⟩⟩ : Step) ∈ steps neighbours 2 ∧ SharesFormat neighbours ∧
      ¬ Tie neighbours := by
  have hstep : (⟨neighbours, ⟨0, 1, ⟨0x100, 0x7FE, some .base⟩⟩⟩ : Step) ∈ steps neighbours 2 := by
    rw [steps_of_best (by decide) (show best? neighbours = some ⟨0, 1, ⟨0x100, 0x7FE, some .base⟩⟩ by decide)]
    exact List.mem_cons_self
  have hshares : SharesFormat neighbours := ⟨0, 1, _, _, .base, by decide, rfl, rfl, rfl, rfl⟩
  refine ⟨hstep, hshares, fun htie => ?_⟩
  have hnone := (agnostic_iff_tie neighbours 2 _ hstep hshares).2 htie
  simp at hnone

/-- Two filters for one extended identifier, the first of which takes base frames too, and two base filters that demand
different bits. -/
def rivals : List Filter :=
  [⟨5, 0x1FFFFFFF, none⟩, ⟨5, 0x1FFFFFFF, some .extended⟩, ⟨0x00F, 0x00F, some .base⟩, ⟨0x0F0, 0x0F0, some .base⟩]

/-- A step merges the first two, across formats, although the base filters could be merged. -/
theorem steps_rivals :
    (∀ filter ∈ rivals, Filter.make filter.id filter.mask filter.format = .ok filter) ∧ SharesFormat rivals ∧
      (⟨rivals, ⟨0, 1, ⟨5, 0x1FFFFFFF, none⟩⟩⟩ : Step) ∈ steps rivals 3 := by
  refine ⟨by decide, ⟨2, 3, _, _, .base, by decide, rfl, rfl, rfl, rfl⟩, ?_⟩
  rw [steps_of_best (by decide) (show best? rivals = some ⟨0, 1, ⟨5, 0x1FFFFFFF, none⟩⟩ by decide)]
  exact List.mem_cons_self

end Reduction

end CanBus
