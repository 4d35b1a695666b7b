import CanBus.Console.Spelling
import CanBus.Proofs.Capture.Word

/-!
# Filters as texts — which texts spell a filter

A text spells a filter if it is made of two numbers with a slash between them and the mark of the filter's format behind
them, and of nothing else (`filter_eq_ok_iff`).  A number holds neither slash nor colon, so it does not matter that the
format is looked for from the end and the slash from the start.  A printed filter, typed with a colon before its format,
is such a text.
-/

namespace CanBus

/-! ## Marks in numbers -/

theorem Capture.Numeric.slash_notMem {text : List Char} {n : Nat} (h : Numeric text n) : '/' ∉ text :=
  h.notMem rfl rfl (by decide)

theorem Capture.Numeric.colon_notMem {text : List Char} {n : Nat} (h : Numeric text n) : ':' ∉ text :=
  h.notMem rfl rfl (by decide)

theorem IdFormat.colon_notMem_label (format : IdFormat) : ':' ∉ format.label.toList := by cases format <;> decide

namespace Console

open Capture (Numeric)

/-! ## Reading -/

/-- What is typed behind the numbers for the format of a filter. -/
def formatMark : Option IdFormat → List Char
  | none => []
  | some format => ':' :: format.label.toList

/-- A text is cut at the mark at its end. -/
theorem cutLast_formatMark {body : List Char} {format : Option IdFormat} (h : format = none → ':' ∉ body) :
    Text.cutLast ':' (body ++ formatMark format) = format.map fun named => (body, named.label.toList) := by
  cases format with
  | none => rw [formatMark, List.append_nil, Text.cutLast_eq_none_iff.2 (h rfl), Option.map_none]
  | some named => rw [formatMark, Text.cutLast_append named.colon_notMem_label, Option.map_some]

/-- **What is read as the format.**  The mark at the end; without one there is no colon at all. -/
theorem filterFormat_eq_ok_iff {text : String} {body : List Char} {format : Option IdFormat} :
    filterFormat text = .ok (body, format) ↔
      text.toList = body ++ formatMark format ∧ (format = none → ':' ∉ body) := by
  constructor
  · intro h
    rw [filterFormat] at h
    cases hcut : Text.cutLast ':' text.toList with
    | none =>
      rw [hcut] at h
      cases h
      exact ⟨(List.append_nil _).symm, fun _ => Text.cutLast_eq_none_iff.1 hcut⟩
    | some parts =>
      obtain ⟨front, name⟩ := parts
      obtain ⟨-, htext⟩ := Text.cutLast_eq_some_iff.1 hcut
      rw [hcut] at h
      dsimp only at h
      split_ifs at h with hbase hextended
      · cases h
        subst hbase
        exact ⟨htext, nofun⟩
      · cases h
        subst hextended
        exact ⟨htext, nofun⟩
  · rintro ⟨htext, hnone⟩
    rw [filterFormat, htext, cutLast_formatMark hnone]
    cases format with
    | none => rw [Option.map_none, formatMark, List.append_nil]
    | some named => cases named <;> rfl

/-- **What is read as a filter.**  Two numbers that lie within the width of the format, with a slash between them and
the mark of the format behind them. -/
theorem filter_eq_ok_iff {text : String} {f : Filter} :
    filter text = .ok f ↔ f.InWidth ∧ ∃ id mask, text.toList = id ++ '/' :: mask ++ formatMark f.format ∧
      Numeric id f.id.toNat ∧ Numeric mask f.mask.toNat := by
  constructor
  · intro h
    unfold filter at h
    split at h
    · cases h
    rename_i body format hformat
    split at h
    · cases h
    rename_i id mask hslash
    split at h
    · cases h
    rename_i idWord hid
    split at h
    · cases h
    rename_i maskWord hmask
    obtain ⟨rfl, hwidth⟩ := Filter.make_eq_ok_iff.1 (Hex.mapError_eq_ok_iff.1 h)
    obtain ⟨-, rfl⟩ := Text.cutFirst_eq_some_iff.1 hslash
    exact ⟨hwidth, id, mask, (filterFormat_eq_ok_iff.1 hformat).1, Capture.word?_eq_some_iff.1 hid,
      Capture.word?_eq_some_iff.1 hmask⟩
  · rintro ⟨hwidth, id, mask, htext, hid, hmask⟩
    have hcolon : ':' ∉ id ++ '/' :: mask := by
      simpa using ⟨hid.colon_notMem, hmask.colon_notMem⟩
    have hslash := Text.cutFirst_append hid.slash_notMem mask
    simp only [filter, filterFormat_eq_ok_iff.2 ⟨htext, fun _ => hcolon⟩, hslash, Capture.word?_eq_some_iff.2 hid,
      Capture.word?_eq_some_iff.2 hmask]
    exact Hex.mapError_eq_ok_iff.2 (Filter.make_own_iff.2 hwidth)

/-! ## Typing what was printed -/

/-- A printed filter as it is typed: a colon in place of the last space, and no word for a filter that takes both
formats. -/
def asTyped (printed : String) : String :=
  match Text.cutLast ' ' printed.toList with
  | none => printed
  | some (numbers, name) => String.ofList (if name = "any".toList then numbers else numbers ++ ':' :: name)

/-- What is typed for a printed filter is its numbers in eight digits each and the mark of its format. -/
theorem toList_asTyped (f : Filter) :
    (asTyped f.render).toList =
      Hex.lower 8 f.id.toNat ++ '/' :: Hex.lower 8 f.mask.toNat ++ formatMark f.format := by
  have hrender : ∀ name : String, (String.ofList (Hex.lower 8 f.id.toNat) ++ "/" ++
      String.ofList (Hex.lower 8 f.mask.toNat) ++ " " ++ name).toList =
        (Hex.lower 8 f.id.toNat ++ '/' :: Hex.lower 8 f.mask.toNat) ++ ' ' :: name.toList := by
    intro name
    simp
  rw [asTyped, Filter.render, hrender]
  cases f.format with
  | none =>
    rw [Text.cutLast_append (by decide)]
    simp [formatMark]
  | some format =>
    have hspace : ' ' ∉ format.label.toList := by cases format <;> decide
    have hany : format.label.toList ≠ "any".toList := by cases format <;> decide
    simp only [Text.cutLast_append hspace, if_neg hany, String.toList_ofList, formatMark]

/-- A printed word is a number. -/
theorem numeric_lower (word : BitVec 32) : Numeric (Hex.lower 8 word.toNat) word.toNat :=
  ⟨_, Capture.dressed_self _, (Hex.spells_lower (by decide) (by simpa using word.isLt)).signed⟩

/-- **Texts denote filters faithfully.**  A filter that can be made is spelled by what is printed of it, typed with a
colon, and by any two texts of its numbers with a slash between them and the mark of its format behind them: the numbers
may be in digits of either case, with zeros, a plus sign or `0x` in front and with blanks around them.  A text that
spells a filter spells one that can be made.  It has no colon, or what stands behind its last one is the name of a
format, which is the filter's; and what stands before and behind the first slash of the rest are the numbers of the
filter. -/
theorem filter_denotes :
    (∀ f : Filter, Filter.make f.id f.mask f.format = .ok f →
      filter (asTyped f.render) = .ok f ∧
      ∀ id mask, Numeric id f.id.toNat → Numeric mask f.mask.toNat →
        filter (String.ofList (id ++ '/' :: mask ++ formatMark f.format)) = .ok f) ∧
    ∀ (text : String) (f : Filter), filter text = .ok f →
      Filter.make f.id f.mask f.format = .ok f ∧
      ∃ body id mask,
        ((f.format = none ∧ ':' ∉ text.toList ∧ text.toList = body) ∨
          ∃ format : IdFormat, f.format = some format ∧ ':' ∉ format.label.toList ∧
            text.toList = body ++ ':' :: format.label.toList) ∧
        body = id ++ '/' :: mask ∧ '/' ∉ id ∧ Numeric id f.id.toNat ∧ Numeric mask f.mask.toNat := by
  constructor
  · intro f hmade
    have hwidth := Filter.make_own_iff.1 hmade
    refine ⟨filter_eq_ok_iff.2 ⟨hwidth, _, _, toList_asTyped f, numeric_lower f.id, numeric_lower f.mask⟩, ?_⟩
    intro id mask hid hmask
    exact filter_eq_ok_iff.2 ⟨hwidth, id, mask, String.toList_ofList, hid, hmask⟩
  · intro text f h
    obtain ⟨hwidth, id, mask, htext, hid, hmask⟩ := filter_eq_ok_iff.1 h
    refine ⟨Filter.make_own_iff.2 hwidth, id ++ '/' :: mask, id, mask, ?_, rfl, hid.slash_notMem, hid, hmask⟩
    cases hformat : f.format with
    | none =>
      rw [hformat, formatMark, List.append_nil] at htext
      refine .inl ⟨rfl, ?_, htext⟩
      rw [htext]
      simpa using ⟨hid.colon_notMem, hmask.colon_notMem⟩
    | some format =>
      rw [hformat] at htext
      exact .inr ⟨format, rfl, format.colon_notMem_label, htext⟩

theorem filter_denotes_spellings :
    Filter.make 0x1FF 0x7FF (some .base) = .ok ⟨0x1FF, 0x7FF, some .base⟩ ∧
      filter (asTyped (Filter.mk 0x1FF 0x7FF (some .base)).render) = .ok ⟨0x1FF, 0x7FF, some .base⟩ ∧
      filter " 0x00000001fF /7Ff\t:base" = .ok ⟨0x1FF, 0x7FF, some .base⟩ ∧
      filter "0x100/ 7ff" = .ok ⟨0x100, 0x7FF, none⟩ ∧
      ∃ id mask, "0x100/ 7ff".toList = id ++ '/' :: mask ∧ Numeric id 0x100 ∧ Numeric mask 0x7FF := by
  have hmade : Filter.make 0x1FF 0x7FF (some .base) = .ok ⟨0x1FF, 0x7FF, some .base⟩ := rfl
  have hread : filter "0x100/ 7ff" = .ok ⟨0x100, 0x7FF, none⟩ := rfl
  obtain ⟨hprinted, hspelled⟩ := filter_denotes.1 ⟨0x1FF, 0x7FF, some .base⟩ hmade
  obtain ⟨-, body, id, mask, hbody, rfl, -, hid, hmask⟩ := filter_denotes.2 _ _ hread
  refine ⟨hmade, hprinted, ?_, hread, id, mask, ?_, hid, hmask⟩
  · exact hspelled " 0x00000001fF ".toList "7Ff\t".toList (Capture.word?_eq_some_iff.1 (by decide))
      (Capture.word?_eq_some_iff.1 (by decide))
  · rcases hbody with ⟨-, -, htext⟩ | ⟨_, hformat, -⟩
    · exact htext
    · cases hformat

end Console

end CanBus
