import CanBus.Console.Spelling
import CanBus.Proofs.Capture.Word

/-!
# Frames as texts — what is printed can be typed

A printed frame falls into its identifier, the name of its format, its bytes and the mark for loopback
(`Printed.ofText?_render`).  What a user types is a frame exactly if its parts are spelled (`frame_eq_ok_iff`), and the
parts of a printed frame spell that frame (`typed_back`).  An identifier that is spelled fits its format, so a frame is
never refused for its identifier once that has been read.
-/

namespace CanBus

/-! ## The parts of a printed frame -/

/-- The words of a text, which spaces part. -/
def Text.words (cs : List Char) : List (List Char) := (cs.splitOn ' ').filter (· ≠ [])

/-- Words with a space between any two. -/
theorem Text.words_intercalate {words : List (List Char)} (hne : ∀ word ∈ words, word ≠ [])
    (hspace : ∀ word ∈ words, ' ' ∉ word) : Text.words ([' '].intercalate words) = words := by
  rw [Text.words]
  cases words with
  | nil => rfl
  | cons word rest =>
    rw [List.splitOn_intercalate ' ' hspace (List.cons_ne_nil word rest), List.filter_eq_self]
    simpa using hne

/-- What a printed frame says: its identifier, the name of its format, its bytes, and the mark behind them. -/
structure Printed where
  id : List Char
  format : List Char
  bytes : List (List Char)
  mark : List Char
  deriving DecidableEq

/-- The parts of a printed frame.  The identifier ends at the first space and the format at the next one; the bytes
stand in brackets. -/
def Printed.ofText? (text : List Char) : Option Printed := do
  let (id, rest) ← Text.cutFirst ' ' text
  let (format, rest) ← Text.cutFirst ' ' rest
  let (_, rest) ← Text.cutFirst '[' rest
  let (bytes, mark) ← Text.cutLast ']' rest
  return ⟨id, format, Text.words bytes, mark⟩

namespace Frame

/-- The mark of a frame that asks for loopback. -/
def loopbackMark (frame : Frame) : List Char := if frame.loopback then " loopback".toList else []

/-- What is printed of a frame. -/
def printed (frame : Frame) : Printed :=
  ⟨frame.idText, frame.format.label.toList, frame.byteTexts, frame.loopbackMark⟩

theorem toList_render (frame : Frame) :
    frame.render.toList = frame.idText ++ ' ' :: (frame.format.label.toList ++ ' ' :: '[' ::
      ([' '].intercalate frame.byteTexts ++ ']' :: frame.loopbackMark)) := by
  have hbytes : (frame.byteTexts.map String.ofList).map String.toList = frame.byteTexts := by simp
  have hmark : (if frame.loopback = true then " loopback" else "").toList = frame.loopbackMark := by
    rw [loopbackMark]
    cases frame.loopback <;> rfl
  simp only [render, String.toList_append, String.toList_intercalate, String.toList_ofList, hbytes, hmark]
  simp

theorem space_notMem_idText (frame : Frame) : ' ' ∉ frame.idText := by
  have hdigits := (Hex.spells_upper frame.format.one_le_digits frame.id_lt).notMem (c := ' ') rfl
  simpa [idText] using hdigits

theorem byteTexts_words (frame : Frame) : ∀ word ∈ frame.byteTexts, word ≠ [] ∧ ' ' ∉ word := by
  intro word hword
  obtain ⟨b, -, rfl⟩ := List.mem_map.1 hword
  exact ⟨(Hex.spells_byte b).1, (Hex.spells_byte b).notMem rfl⟩

/-- **A printed frame falls into its parts.** -/
theorem ofText?_render (frame : Frame) : Printed.ofText? frame.render.toList = some frame.printed := by
  have hlabel : ' ' ∉ frame.format.label.toList := by cases frame.format <;> decide
  have hmark : ']' ∉ frame.loopbackMark := by
    rw [loopbackMark]
    cases frame.loopback <;> decide
  have hwords := Text.words_intercalate (fun word hword => (frame.byteTexts_words word hword).1)
    (fun word hword => (frame.byteTexts_words word hword).2)
  have hid := Text.cutFirst_append frame.space_notMem_idText (frame.format.label.toList ++ ' ' :: '[' ::
    ([' '].intercalate frame.byteTexts ++ ']' :: frame.loopbackMark))
  have hformat := Text.cutFirst_append hlabel ('[' :: ([' '].intercalate frame.byteTexts ++ ']' :: frame.loopbackMark))
  have hopen := Text.cutFirst_append (List.not_mem_nil : '[' ∉ [])
    ([' '].intercalate frame.byteTexts ++ ']' :: frame.loopbackMark)
  have hclose := Text.cutLast_append hmark ([' '].intercalate frame.byteTexts)
  rw [List.nil_append] at hopen
  rw [toList_render, Printed.ofText?]
  simp only [hid, hformat, hopen, hclose, hwords, Option.bind_eq_bind, Option.bind_some]
  rfl

end Frame

/-! ## What is typed -/

namespace Console

open Capture (Numeric)

variable {text : String} {data : List String} {extended loopback : Bool}

/-- **What is read as an identifier.**  A number that fits its format, which is the base format if the number fits that
and the other one was not asked for. -/
theorem identifier?_eq_some_iff {id : BitVec 32} {format : IdFormat} :
    identifier? text extended = some (id, format) ↔ Numeric text.toList id.toNat ∧ id.toNat ≤ format.maxId ∧
      (format = .base ↔ id.toNat ≤ IdFormat.base.maxId ∧ extended = false) := by
  rw [← Capture.word?_eq_some_iff, identifier?]
  cases Capture.word? text.toList with
  | none => simp
  | some word =>
    by_cases hbase : word.toNat ≤ IdFormat.base.maxId ∧ extended = false
    · simp only [if_pos hbase, Option.some.injEq, Prod.mk.injEq]
      constructor
      · rintro ⟨rfl, rfl⟩
        exact ⟨rfl, hbase.1, iff_of_true rfl hbase⟩
      · rintro ⟨rfl, -, hformat⟩
        exact ⟨rfl, (hformat.2 hbase).symm⟩
    · by_cases hextended : word.toNat ≤ IdFormat.extended.maxId
      · simp only [if_neg hbase, if_pos hextended, Option.some.injEq, Prod.mk.injEq]
        constructor
        · rintro ⟨rfl, rfl⟩
          exact ⟨rfl, hextended, iff_of_false nofun hbase⟩
        · rintro ⟨rfl, -, hformat⟩
          cases format with
          | base => exact absurd (hformat.1 rfl) hbase
          | extended => exact ⟨rfl, rfl⟩
      · simp only [if_neg hbase, if_neg hextended, reduceCtorEq, Option.some.injEq, false_iff]
        rintro ⟨rfl, hle, hformat⟩
        cases format with
        | base => exact hbase (hformat.1 rfl)
        | extended => exact hextended hle

/-- **What is read as bytes.**  Numbers that fit a byte, one text for each. -/
theorem bytes_eq_ok_iff {payload : List UInt8} :
    bytes data = .ok payload ↔ List.Forall₂ (fun text b => Numeric text.toList b.toNat) data payload := by
  induction data generalizing payload with
  | nil => cases payload <;> simp [bytes]
  | cons text rest ih =>
    rw [bytes]
    cases hbyte : Hex.readByte (Capture.withoutMark (Text.trim text.toList)) with
    | error flaw =>
      simp only [reduceCtorEq, false_iff]
      intro h
      obtain ⟨b, _, hb, -, -⟩ := List.forall₂_cons_left_iff.1 h
      rw [← Capture.signed_stripped_iff, ← Hex.readByte_eq_ok_iff, hbyte] at hb
      cases hb
    | ok b =>
      have hb : ∀ c : UInt8, Numeric text.toList c.toNat ↔ b = c := by
        intro c
        rw [← Capture.signed_stripped_iff, ← Hex.readByte_eq_ok_iff, hbyte, Except.ok.injEq]
      simp only [Hex.map_eq_ok_iff, ih, List.forall₂_cons_left_iff, hb]
      constructor
      · rintro ⟨more, hmore, rfl⟩
        exact ⟨b, more, rfl, hmore, rfl⟩
      · rintro ⟨_, more, rfl, hmore, rfl⟩
        exact ⟨more, hmore, rfl⟩

/-- What is refused as bytes is refused for one of the texts. -/
theorem bytes_eq_error {refusal : Refusal} (h : bytes data = .error refusal) :
    ∃ text flaw, refusal = .badByte text flaw := by
  induction data with
  | nil => cases h
  | cons text rest ih =>
    rw [bytes] at h
    cases hbyte : Hex.readByte (Capture.withoutMark (Text.trim text.toList)) with
    | error flaw =>
      simp only [hbyte] at h
      exact ⟨_, flaw, (Except.error.inj h).symm⟩
    | ok b =>
      simp only [hbyte] at h
      cases hrest : bytes rest with
      | error met =>
        rw [hrest] at h
        cases h
        exact ih hrest
      | ok more =>
        rw [hrest] at h
        cases h

/-- **What is read as a frame.**  An identifier, bytes, and the flag. -/
theorem frame_eq_ok_iff {f : Frame} :
    frame text data extended loopback = .ok f ↔ identifier? text extended = some (f.id, f.format) ∧
      bytes data = .ok f.payload ∧ f.loopback = loopback := by
  rw [frame]
  cases hid : identifier? text extended with
  | none => simp
  | some parsed =>
    obtain ⟨id, format⟩ := parsed
    cases hbytes : bytes data with
    | error refusal => simp
    | ok payload =>
      simp only [Hex.mapError_eq_ok_iff, Frame.make_eq_ok_iff, Option.some.injEq, Prod.mk.injEq, Except.ok.injEq]
      constructor
      · rintro ⟨rfl, rfl, rfl, rfl⟩
        exact ⟨⟨rfl, rfl⟩, rfl, rfl⟩
      · rintro ⟨⟨rfl, rfl⟩, rfl, rfl⟩
        exact ⟨rfl, rfl, rfl, rfl⟩

/-- What is refused as a frame is refused for its identifier text, for one of its bytes, or for having too many. -/
theorem frame_eq_error {refusal : Refusal} (h : frame text data extended loopback = .error refusal) :
    refusal = .badIdentifier text ∨ (∃ byte flaw, refusal = .badByte byte flaw) ∨
      refusal = .fault (.invalidFrame .payloadTooLong) := by
  rw [frame] at h
  cases hid : identifier? text extended with
  | none =>
    rw [hid] at h
    exact .inl (Except.error.inj h).symm
  | some parsed =>
    obtain ⟨id, format⟩ := parsed
    have hfits : id.toNat ≤ format.maxId := (identifier?_eq_some_iff.1 hid).2.1
    cases hbytes : bytes data with
    | error met =>
      simp only [hid, hbytes] at h
      cases h
      exact .inr (.inl (bytes_eq_error hbytes))
    | ok payload =>
      simp only [hid, hbytes, Frame.make, dif_pos hfits] at h
      split at h
      · cases h
      · exact .inr (.inr (Except.error.inj h).symm)

/-! ## Typing what was printed -/

/-- The bytes of a printed frame are read as its payload. -/
theorem bytes_byteTexts (f : Frame) : bytes (f.byteTexts.map String.ofList) = .ok f.payload := by
  rw [bytes_eq_ok_iff, Frame.byteTexts, List.forall₂_map_left_iff, List.forall₂_map_left_iff, List.forall₂_same]
  intro b _
  rw [String.toList_ofList]
  exact ⟨_, Capture.dressed_self _, (Hex.spells_byte b).signed⟩

/-- The identifier of a printed frame is read in the format that its number and the request for the other one give. -/
theorem identifier?_idText (f : Frame) {format : IdFormat} (hfits : f.id.toNat ≤ format.maxId)
    (hformat : format = .base ↔ f.id.toNat ≤ IdFormat.base.maxId ∧ extended = false) :
    identifier? (String.ofList f.idText) extended = some (f.id, format) := by
  refine identifier?_eq_some_iff.2 ⟨?_, hfits, hformat⟩
  rw [String.toList_ofList, ← Capture.word?_eq_some_iff]
  exact Capture.word?_idText f

/-- A printed frame, typed, is the frame with its payload and identifier in the format that is read. -/
theorem frame_printed {f g : Frame} (hid : g.id = f.id) (hpayload : g.payload = f.payload)
    (hformat : g.format = .base ↔ f.id.toNat ≤ IdFormat.base.maxId ∧ extended = false) :
    frame (String.ofList f.printed.id) (f.printed.bytes.map String.ofList) extended g.loopback = .ok g := by
  refine frame_eq_ok_iff.2 ⟨?_, ?_, rfl⟩
  · rw [hid]
    exact identifier?_idText f (hid ▸ g.id_le) hformat
  · rw [hpayload]
    exact bytes_byteTexts f

/-- A frame is typed back if the extended format is asked for just when it has that. -/
theorem frame_printed_self (f : Frame) :
    frame (String.ofList f.printed.id) (f.printed.bytes.map String.ofList) (decide (f.format = .extended)) f.loopback =
      .ok f := by
  refine frame_printed rfl rfl ?_
  have hid := f.id_le
  cases hformat : f.format with
  | base =>
    rw [hformat] at hid
    exact iff_of_true rfl ⟨hid, rfl⟩
  | extended => exact iff_of_false nofun fun h => absurd h.2 (by decide)

/-- Without asking for it the extended format is read if the number needs it. -/
theorem frame_printed_unasked {f : Frame} (h : ¬ (f.format = .extended ∧ f.id.toNat ≤ IdFormat.base.maxId)) :
    frame (String.ofList f.printed.id) (f.printed.bytes.map String.ofList) false f.loopback = .ok f := by
  refine frame_printed rfl rfl ?_
  have hid := f.id_le
  cases hformat : f.format with
  | base =>
    rw [hformat] at hid
    exact iff_of_true rfl ⟨hid, rfl⟩
  | extended => exact iff_of_false nofun fun hbase => h ⟨hformat, hbase.1⟩

/-- A short identifier is read in the base format unless the other one is asked for. -/
theorem frame_printed_short {f : Frame} (h : f.id.toNat ≤ IdFormat.base.maxId) :
    ∃ g, frame (String.ofList f.printed.id) (f.printed.bytes.map String.ofList) false f.loopback = .ok g ∧
      g.format = .base ∧ g.id = f.id ∧ g.payload = f.payload ∧ g.loopback = f.loopback := by
  let g : Frame := ⟨f.id, f.payload, .base, f.loopback, h, f.payload_le⟩
  have hg : frame (String.ofList f.printed.id) (f.printed.bytes.map String.ofList) false g.loopback = .ok g :=
    frame_printed rfl rfl (iff_of_true rfl ⟨h, rfl⟩)
  exact ⟨g, hg, rfl, rfl, rfl, rfl⟩

end Console

/-- Two frames that fall into the same parts are the same, for typing the parts gives either. -/
theorem Frame.printed_injective : Function.Injective Frame.printed := by
  intro f g h
  have hformat : f.format = g.format := by
    have hlabel : f.format.label.toList = g.format.label.toList := congrArg Printed.format h
    revert hlabel
    cases f.format <;> cases g.format <;> decide
  have hloopback : f.loopback = g.loopback := by
    have hmark : f.loopbackMark = g.loopbackMark := congrArg Printed.mark h
    rw [loopbackMark, loopbackMark] at hmark
    revert hmark
    cases f.loopback <;> cases g.loopback <;> decide
  have hf := Console.frame_printed_self f
  rw [h, hformat, hloopback, Console.frame_printed_self g] at hf
  exact (Except.ok.inj hf).symm

theorem Frame.render_injective : Function.Injective Frame.render := by
  intro f g h
  have hparts := f.ofText?_render
  rw [h, g.ofText?_render] at hparts
  exact Frame.printed_injective (Option.some.inj hparts).symm

/-- **Printed frames can be typed back.**  The identifier and the bytes of a printed frame, typed with its flag, are
that frame if the extended format is asked for just when the frame has it.  If that is not asked for, they are that
frame too, unless it is an extended one whose identifier fits the base format: then they are the base frame with the
same identifier, payload and flag.  So no two frames are printed alike.  Whatever is typed, what is read as an
identifier fits its format, and no frame is refused for an identifier out of range. -/
theorem typed_back :
    (∀ f : Frame, ∃ parts, Printed.ofText? f.render.toList = some parts ∧
      let id := String.ofList parts.id
      let data := parts.bytes.map String.ofList
      Console.frame id data (decide (f.format = .extended)) f.loopback = .ok f ∧
      (¬ (f.format = .extended ∧ f.id.toNat ≤ 0x7FF) → Console.frame id data false f.loopback = .ok f) ∧
      (f.format = .extended → f.id.toNat ≤ 0x7FF → ∃ g, Console.frame id data false f.loopback = .ok g ∧
        g.format = .base ∧ g.id = f.id ∧ g.payload = f.payload ∧ g.loopback = f.loopback)) ∧
    Function.Injective Frame.render ∧
    ∀ (text : String) (data : List String) (extended loopback : Bool),
      (∀ id format, Console.identifier? text extended = some (id, format) → id.toNat ≤ format.maxId) ∧
      Console.frame text data extended loopback ≠ .error (.fault (.invalidFrame .identifierOutOfRange)) ∧
      ∀ refusal, Console.frame text data extended loopback = .error refusal →
        refusal = .badIdentifier text ∨ (∃ byte flaw, refusal = .badByte byte flaw) ∨
          refusal = .fault (.invalidFrame .payloadTooLong) := by
  refine ⟨fun f => ⟨f.printed, f.ofText?_render, Console.frame_printed_self f, Console.frame_printed_unasked,
    fun _ => Console.frame_printed_short⟩, Frame.render_injective, fun text data extended loopback =>
    ⟨fun id format h => (Console.identifier?_eq_some_iff.1 h).2.1, fun h => ?_, fun refusal => Console.frame_eq_error⟩⟩
  rcases Console.frame_eq_error h with hidentifier | ⟨byte, flaw, hbyte⟩ | hlong
  · cases hidentifier
  · cases hbyte
  · cases hlong

/-- An extended frame whose identifier would fit the base format. -/
def Frame.lowExtended : Frame := ⟨0x6A5, [0x0C, 0xC3], .extended, true, by decide, by decide⟩

theorem typed_back_lowExtended :
    Frame.lowExtended.render = "0x000006A5 ext [0C C3] loopback" ∧
      Console.frame "0x000006A5" ["0C", "C3"] true true = .ok Frame.lowExtended ∧
      Frame.lowExtended.id.toNat ≤ 0x7FF ∧
      ∃ g, Console.frame "0x000006A5" ["0C", "C3"] false true = .ok g ∧ g.format = .base ∧ g.id = 0x6A5 := by
  have hlow : Frame.lowExtended.id.toNat ≤ 0x7FF := by decide
  obtain ⟨parts, hparts, hself, -, hshort⟩ := typed_back.1 Frame.lowExtended
  rw [Frame.ofText?_render] at hparts
  cases hparts
  obtain ⟨g, hread, hformat, hid, -⟩ := hshort rfl hlow
  exact ⟨by decide, hself, hlow, g, hread, hformat, hid⟩

end CanBus
