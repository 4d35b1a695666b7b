import CanBus.Proofs.Text.Digits
import CanBus.Text.JsonReader
import CanBus.Text.JsonWriter
import Mathlib.Data.List.Basic

/-!
# JSON — what was written is read back

Strings of any characters, numbers and truth values read back as they were written (`spells_written`), and so does an
object of such values (`read_object`).  No line break stands in what is written.  So writer and reader are a library as
it is documented (`documented`).
-/

namespace CanBus.Json

/-! ## Strings -/

/-- A character is written as itself, behind a backslash, or with the number of a control character. -/
theorem escape_cases (c : Char) :
    (c ≠ '"' ∧ c ≠ '\\' ∧ 32 ≤ c.toNat ∧ escape c = [c]) ∨
      (∃ letter, letter ≠ 'u' ∧ escaped? letter = some c ∧ escape c = ['\\', letter]) ∨
        c.toNat < 32 ∧ escape c = '\\' :: 'u' :: Hex.lower 4 c.toNat := by
  have hchar : ∀ {n : Nat}, c.toNat = n → Char.ofNat n = c := fun h => h ▸ Char.ofNat_toNat c
  unfold escape
  by_cases hquote : c = '"'
  · exact .inr (.inl ⟨'"', by decide, by rw [hquote]; rfl, if_pos hquote⟩)
  rw [if_neg hquote]
  by_cases hbackslash : c = '\\'
  · exact .inr (.inl ⟨'\\', by decide, by rw [hbackslash]; rfl, if_pos hbackslash⟩)
  rw [if_neg hbackslash]
  by_cases hbackspace : c.toNat = 8
  · exact .inr (.inl ⟨'b', by decide, congrArg some (hchar hbackspace), if_pos hbackspace⟩)
  rw [if_neg hbackspace]
  by_cases htab : c = '\t'
  · exact .inr (.inl ⟨'t', by decide, by rw [htab]; rfl, if_pos htab⟩)
  rw [if_neg htab]
  by_cases hbreak : c = '\n'
  · exact .inr (.inl ⟨'n', by decide, by rw [hbreak]; rfl, if_pos hbreak⟩)
  rw [if_neg hbreak]
  by_cases hfeed : c.toNat = 12
  · exact .inr (.inl ⟨'f', by decide, congrArg some (hchar hfeed), if_pos hfeed⟩)
  rw [if_neg hfeed]
  by_cases hreturn : c = '\r'
  · exact .inr (.inl ⟨'r', by decide, by rw [hreturn]; rfl, if_pos hreturn⟩)
  rw [if_neg hreturn]
  by_cases hcontrol : c.toNat < 32
  · exact .inr (.inr ⟨hcontrol, if_pos hcontrol⟩)
  · exact .inl ⟨hquote, hbackslash, Nat.le_of_not_lt hcontrol, if_neg hcontrol⟩

/-- The four digits of a control character. -/
theorem lower_control {n : Nat} (h : n < 32) :
    ∃ a b, Hex.lower 4 n = ['0', '0', a, b] ∧ fourDigits '0' '0' a b = some n := by
  have hall : ∀ n < 32, Hex.lower 4 n = ['0', '0', Hex.lowerDigit (n / 16), Hex.lowerDigit (n % 16)] ∧
      fourDigits '0' '0' (Hex.lowerDigit (n / 16)) (Hex.lowerDigit (n % 16)) = some n := by decide
  exact ⟨_, _, hall n h⟩

theorem assemble_unit {n : Nat} (h : n < 32) (later : List Part) :
    assemble (.unit n :: later) = (assemble later).map (Char.ofNat n :: ·) := by
  have hhigh : isHighSurrogate n = false := by
    have : ¬ 0xD800 ≤ n := by omega
    simp [isHighSurrogate, this]
  have hlow : isLowSurrogate n = false := by
    have : ¬ 0xDC00 ≤ n := by omega
    simp [isLowSurrogate, this]
  match later with
  | [] => simp [assemble, hhigh, hlow]
  | .character c :: later => simp [assemble, hhigh, hlow]
  | .unit low :: later => simp [assemble, hhigh, hlow]

/-- A part before what is read of the rest. -/
def before (part : Part) (read : List Part × List Char) : List Part × List Char := (part :: read.1, read.2)

theorem parts_plain {c : Char} (hquote : c ≠ '"') (hbackslash : c ≠ '\\') (hprint : 32 ≤ c.toNat) (cs : List Char) :
    parts (c :: cs) = (parts cs).map (before (.character c)) := by
  rw [parts]
  · rw [if_neg (Nat.not_lt.2 hprint)]
    cases parts cs <;> rfl
  · exact hquote
  · exact fun _ _ _ _ _ h _ => hbackslash h
  · exact fun _ _ h _ => hbackslash h

theorem parts_letter {letter c : Char} (hletter : letter ≠ 'u') (hmeant : escaped? letter = some c) (cs : List Char) :
    parts ('\\' :: letter :: cs) = (parts cs).map (before (.character c)) := by
  rw [parts]
  · rw [hmeant]
    cases parts cs <;> rfl
  · exact fun _ _ _ _ _ h _ => hletter h

theorem parts_unit {a b c d : Char} {n : Nat} (h : fourDigits a b c d = some n) (cs : List Char) :
    parts ('\\' :: 'u' :: a :: b :: c :: d :: cs) = (parts cs).map (before (.unit n)) := by
  rw [parts, h]
  cases parts cs <;> rfl

/-- An escaped character is read as one part, which stands for the character. -/
theorem escape_part (c : Char) :
    ∃ part, (∀ cs, parts (escape c ++ cs) = (parts cs).map (before part)) ∧
      ∀ later, assemble (part :: later) = (assemble later).map (c :: ·) := by
  rcases escape_cases c with ⟨hquote, hbackslash, hprint, hescape⟩ | ⟨letter, hletter, hmeant, hescape⟩ |
    ⟨hcontrol, hescape⟩
  · rw [hescape]
    exact ⟨.character c, parts_plain hquote hbackslash hprint, fun _ => rfl⟩
  · rw [hescape]
    exact ⟨.character c, parts_letter hletter hmeant, fun _ => rfl⟩
  · obtain ⟨a, b, hlower, hdigits⟩ := lower_control hcontrol
    rw [hescape, hlower]
    refine ⟨.unit c.toNat, parts_unit hdigits, fun later => ?_⟩
    rw [assemble_unit hcontrol, Char.ofNat_toNat]

/-- Escaped characters are read up to the closing quote. -/
theorem string_escape (cs rest : List Char) : string (cs.flatMap escape ++ '"' :: rest) = some (some cs, rest) := by
  have hparts : ∃ ps, parts (cs.flatMap escape ++ '"' :: rest) = some (ps, rest) ∧ assemble ps = some cs := by
    induction cs with
    | nil => exact ⟨[], by rw [List.flatMap_nil, List.nil_append, parts], rfl⟩
    | cons c cs ih =>
      obtain ⟨ps, hparts, hassemble⟩ := ih
      obtain ⟨part, hread, hmeant⟩ := escape_part c
      refine ⟨part :: ps, ?_, by rw [hmeant, hassemble]; rfl⟩
      rw [List.flatMap_cons, List.append_assoc, hread, hparts]
      rfl
  obtain ⟨ps, hparts, hassemble⟩ := hparts
  rw [string, hparts]
  exact congrArg (fun read => some (read, rest)) hassemble

/-! ## Numerals -/

/-- What stands behind a value inside an object. -/
def Ends (rest : List Char) : Prop := ∃ more, rest = ',' :: more ∨ rest = '}' :: more

theorem digits_append {ds rest : List Char} (hne : ds ≠ []) (hdigits : ∀ d ∈ ds, d.isDigit = true) (hrest : Ends rest) :
    digits (ds ++ rest) = some (ds, rest) := by
  have htake : rest.takeWhile Char.isDigit = [] := by
    obtain ⟨more, rfl | rfl⟩ := hrest <;> rfl
  have hdrop : rest.dropWhile Char.isDigit = rest := by
    obtain ⟨more, rfl | rfl⟩ := hrest <;> rfl
  rw [digits, List.takeWhile_append_of_pos hdigits, List.dropWhile_append_of_pos hdigits, htake, hdrop, List.append_nil]
  cases ds with
  | nil => exact absurd rfl hne
  | cons d ds => rfl

/-- A number does not open with a zero, unless it is zero. -/
theorem toDigits_head {n : Nat} (h : 0 < n) : ∃ d ds, Nat.toDigits 10 n = d :: ds ∧ d ≠ '0' := by
  induction n using Nat.strongRecOn with
  | ind n ih =>
    rw [Nat.toDigits_eq_if (by decide)]
    by_cases hn : n < 10
    · have hdigit : ∀ d < 10, 0 < d → d.digitChar ≠ '0' := by decide
      rw [if_pos hn]
      exact ⟨_, [], rfl, hdigit n hn h⟩
    · rw [if_neg hn]
      obtain ⟨d, ds, hds, hne⟩ := ih (n / 10) (by omega) (by omega)
      exact ⟨d, ds ++ [(n % 10).digitChar], by rw [hds]; rfl, hne⟩

theorem isDigit_of_mem_natural {n : Nat} {c : Char} (h : c ∈ natural n) : c.isDigit = true :=
  Nat.isDigit_of_mem_toDigits (by decide) (by decide) h

theorem natural_ne_nil (n : Nat) : natural n ≠ [] := by
  intro hnil
  rw [natural, Nat.toDigits_eq_if (by decide)] at hnil
  by_cases hn : n < 10
  · rw [if_pos hn] at hnil
    cases hnil
  · rw [if_neg hn] at hnil
    exact List.append_ne_nil_of_right_ne_nil _ (by simp) hnil

theorem wholePart_natural (n : Nat) {rest : List Char} (hrest : Ends rest) :
    wholePart (natural n ++ rest) = some (natural n, rest) := by
  have hdigits := digits_append (natural_ne_nil n) (fun d hd => isDigit_of_mem_natural hd) hrest
  by_cases hn : n = 0
  · subst hn
    rfl
  · obtain ⟨d, ds, hds, hne⟩ := toDigits_head (Nat.pos_of_ne_zero hn)
    rw [natural, hds] at hdigits ⊢
    rw [List.cons_append] at hdigits ⊢
    rw [wholePart, hdigits]
    exact fun _ h => hne (List.cons.inj h).1

theorem numeral_natural (n : Nat) {rest : List Char} (hrest : Ends rest) :
    numeral (natural n ++ rest) = some (natural n, rest) := by
  have hunsigned : unsigned (natural n ++ rest) = some (natural n, rest) := by
    rw [unsigned, wholePart_natural n hrest]
    obtain ⟨more, rfl | rfl⟩ := hrest <;> simp [fractionPart, exponentPart]
  cases hn : natural n with
  | nil => exact absurd hn (natural_ne_nil n)
  | cons d ds =>
    have hdigit : d.isDigit = true := isDigit_of_mem_natural (hn ▸ List.mem_cons_self : d ∈ natural n)
    rw [hn] at hunsigned
    rw [List.cons_append] at hunsigned ⊢
    rw [numeral, hunsigned]
    intro _ h
    cases h
    cases hdigit

/-- A number reads back as itself. -/
theorem natural?_natural {n limit : Nat} (h : n ≤ limit) : (Value.number (natural n)).natural? limit = some n := by
  have hall : (natural n).all Char.isDigit = true := List.all_eq_true.2 fun c hc => isDigit_of_mem_natural hc
  have hvalue : (natural n).foldl (fun n c => n * 10 + (c.toNat - '0'.toNat)) 0 = n := by
    have hdigits : Nat.ofDigitChars 10 (natural n) 0 = n := Nat.ofDigitChars_toDigits (by decide) (by decide)
    rw [Nat.ofDigitChars] at hdigits
    simpa [Nat.mul_comm] using hdigits
  rw [Value.natural?, if_pos hall, hvalue, if_pos h]

/-! ## Values -/

theorem skipBlank_of_ne {c : Char} (h : c ≠ ' ' ∧ c ≠ '\t' ∧ c ≠ '\n' ∧ c ≠ '\r') (cs : List Char) :
    skipBlank (c :: cs) = c :: cs := by
  simp [skipBlank, h]

theorem skipBlank_ends {rest : List Char} (h : Ends rest) : skipBlank rest = rest := by
  obtain ⟨more, rfl | rfl⟩ := h <;> rfl

/-- The text reads as the value, inside an object. -/
def Spells (text : List Char) (v : Value) : Prop :=
  ∀ fuel rest, Ends rest → value (fuel + 1) (text ++ rest) = some (v, rest)

theorem spells_quote (cs : List Char) : Spells (quote cs) (.string (some cs)) := by
  intro fuel rest _
  have htext : quote cs ++ rest = '"' :: (cs.flatMap escape ++ '"' :: rest) := by simp [quote]
  have hvalue : ∀ cs, value (fuel + 1) ('"' :: cs) = (string cs).map fun read => (.string read.1, read.2) :=
    fun _ => rfl
  rw [htext, hvalue, string_escape]
  rfl

theorem spells_boolean (b : Bool) : Spells (boolean b) (.boolean b) := by
  intro fuel rest _
  cases b <;> rfl

/-- A digit opens nothing but a numeral. -/
theorem value_digit {d : Char} (hdigit : d.isDigit = true) (fuel : Nat) (cs : List Char) :
    value (fuel + 1) (d :: cs) = (numeral (d :: cs)).map fun read => (.number read.1, read.2) := by
  have hblank : d ≠ ' ' ∧ d ≠ '\t' ∧ d ≠ '\n' ∧ d ≠ '\r' := by
    refine ⟨?_, ?_, ?_, ?_⟩ <;> (rintro rfl; cases hdigit)
  rw [value, skipBlank_of_ne hblank]
  split
  case h_7 => rfl
  all_goals
    next heq =>
      obtain ⟨rfl, -⟩ := List.cons.inj heq
      cases hdigit

theorem spells_natural (n : Nat) : Spells (natural n) (.number (natural n)) := by
  intro fuel rest hrest
  have hnumeral := numeral_natural n hrest
  cases hn : natural n with
  | nil => exact absurd hn (natural_ne_nil n)
  | cons d ds =>
    have hdigit : d.isDigit = true := isDigit_of_mem_natural (hn ▸ List.mem_cons_self : d ∈ natural n)
    rw [hn, List.cons_append] at hnumeral
    rw [List.cons_append, value_digit hdigit, hnumeral]
    rfl

/-! ## Line breaks -/

theorem unbroken_escape (c : Char) : '\n' ∉ escape c := by
  rcases escape_cases c with ⟨-, -, hprint, hescape⟩ | ⟨letter, -, hmeant, hescape⟩ | ⟨-, hescape⟩
  · rw [hescape, List.mem_singleton]
    rintro rfl
    exact absurd hprint (by decide)
  · rw [hescape]
    rintro (_ | ⟨_, _ | ⟨_, ⟨⟩⟩⟩)
    cases hmeant
  · rw [hescape]
    rintro (_ | ⟨_, _ | ⟨_, hlower⟩⟩)
    obtain ⟨d, hd, hdigit⟩ := Hex.mem_fixed hlower
    have hne : ∀ d < 16, '\n' ≠ Hex.lowerDigit d := by decide
    exact hne d hd hdigit

theorem unbroken_quote (cs : List Char) : '\n' ∉ quote cs := by
  have hescaped : '\n' ∉ cs.flatMap escape := by
    intro h
    obtain ⟨c, -, hc⟩ := List.mem_flatMap.1 h
    exact unbroken_escape c hc
  simp [quote, hescaped]

theorem unbroken_boolean (b : Bool) : '\n' ∉ boolean b := by cases b <;> decide

theorem unbroken_natural (n : Nat) : '\n' ∉ natural n := by
  intro h
  cases isDigit_of_mem_natural h

/-! ## Objects -/

theorem spells_written (scalar : Scalar) : Spells scalar.written scalar.value := by
  cases scalar with
  | text characters => exact spells_quote characters
  | natural n => exact spells_natural n
  | boolean b => exact spells_boolean b

theorem unbroken_written (scalar : Scalar) : '\n' ∉ scalar.written := by
  cases scalar with
  | text characters => exact unbroken_quote characters
  | natural n => exact unbroken_natural n
  | boolean b => exact unbroken_boolean b

/-- A member of an object as it is written. -/
def writtenMember (member : String × Scalar) : String × List Char := (member.1, member.2.written)

/-- A member of an object as it is read. -/
def readMember (member : String × Scalar) : Option (List Char) × Value := (some member.1.toList, member.2.value)

/-- The members from this one on, by what stands behind its value. -/
def membersFrom (member : String × Scalar) (fuel : Nat) :
    List Char → Option (List (Option (List Char) × Value) × List Char)
  | '}' :: rest => some ([readMember member], rest)
  | ',' :: rest => (members fuel rest).map fun more => (readMember member :: more.1, more.2)
  | _ => none

/-- A member is read before what stands behind it. -/
theorem members_member (key : String) (scalar : Scalar) (fuel : Nat) {rest : List Char} (hrest : Ends rest) :
    members (fuel + 2) (quote key.toList ++ ':' :: scalar.written ++ rest) =
      membersFrom (key, scalar) (fuel + 1) rest := by
  have htext : quote key.toList ++ ':' :: scalar.written ++ rest =
      '"' :: (key.toList.flatMap escape ++ '"' :: ':' :: (scalar.written ++ rest)) := by simp [quote]
  have hkey := string_escape key.toList (':' :: (scalar.written ++ rest))
  have hvalue := spells_written scalar fuel rest hrest
  rw [htext, members, skipBlank_of_ne (by decide)]
  simp only [hkey, Option.bind_eq_bind, Option.bind_some]
  rw [skipBlank_of_ne (by decide)]
  simp only [hvalue, Option.bind_some, skipBlank_ends hrest]
  obtain ⟨more, rfl | rfl⟩ := hrest
  · cases hmore : members (fuel + 1) more <;> simp [membersFrom, readMember, hmore]
  · rfl

/-- Members are read up to the closing brace. -/
theorem members_commaMembers {ms : List (String × Scalar)} (hne : ms ≠ []) {fuel : Nat} (hfuel : ms.length ≤ fuel)
    (rest : List Char) :
    members (fuel + 1) (commaMembers (ms.map writtenMember) ++ '}' :: rest) = some (ms.map readMember, rest) := by
  induction ms generalizing fuel with
  | nil => exact absurd rfl hne
  | cons member ms ih =>
    obtain ⟨key, scalar⟩ := member
    obtain ⟨fuel, rfl⟩ : ∃ less, fuel = less + 1 := ⟨fuel - 1, by simp at hfuel; omega⟩
    cases ms with
    | nil => exact members_member key scalar fuel ⟨rest, .inr rfl⟩
    | cons next ms =>
      have hlater := ih (List.cons_ne_nil _ _) (Nat.le_of_succ_le_succ hfuel)
      have htext : commaMembers (((key, scalar) :: next :: ms).map writtenMember) ++ '}' :: rest =
          quote key.toList ++ ':' :: scalar.written ++
            ',' :: (commaMembers ((next :: ms).map writtenMember) ++ '}' :: rest) := by
        simp [commaMembers, writtenMember]
      rw [htext, members_member key scalar fuel ⟨_, .inl rfl⟩, membersFrom, hlater]
      rfl

theorem length_le_commaMembers (ms : List (String × Scalar)) :
    ms.length ≤ (commaMembers (ms.map writtenMember)).length := by
  induction ms with
  | nil => exact Nat.zero_le _
  | cons member ms ih =>
    cases ms with
    | nil => simp [commaMembers, quote, writtenMember]
    | cons next ms =>
      simp only [List.map_cons, commaMembers, List.length_append, List.length_cons] at ih ⊢
      omega

theorem commaMembers_eq_quote {ms : List (String × Scalar)} (hne : ms ≠ []) :
    ∃ cs, commaMembers (ms.map writtenMember) = '"' :: cs := by
  match ms with
  | [] => exact absurd rfl hne
  | [member] => exact ⟨_, rfl⟩
  | member :: next :: ms => exact ⟨_, rfl⟩

/-- **An object that was written reads back**, member by member. -/
theorem read_object (ms : List (String × Scalar)) :
    Json.read (object (ms.map writtenMember)) = some (.object (ms.map readMember)) := by
  by_cases hne : ms = []
  · subst hne
    rfl
  · have hlength := length_le_commaMembers ms
    obtain ⟨fuel, hfuel, henough⟩ :
        ∃ fuel, 2 * (object (ms.map writtenMember)).length + 2 = fuel + 2 ∧ ms.length ≤ fuel := by
      refine ⟨_, rfl, ?_⟩
      simp only [object, List.length_append, List.length_cons]
      omega
    have hvalue : ∀ cs, value (fuel + 2) ('{' :: '"' :: cs) =
        (members (fuel + 1) ('"' :: cs)).map fun read => (.object read.1, read.2) := fun _ => rfl
    have hmembers := members_commaMembers hne henough []
    obtain ⟨cs, hcs⟩ := commaMembers_eq_quote hne
    rw [Json.read, hfuel, object, hcs]
    rw [hcs] at hmembers
    rw [List.cons_append, List.cons_append, hvalue, ← List.cons_append, hmembers]
    rfl

theorem unbroken_commaMembers (ms : List (String × Scalar)) : '\n' ∉ commaMembers (ms.map writtenMember) := by
  induction ms with
  | nil => exact List.not_mem_nil
  | cons member ms ih =>
    obtain ⟨key, scalar⟩ := member
    have hmember : '\n' ∉ quote key.toList ++ ':' :: scalar.written := by
      simp [unbroken_quote, unbroken_written]
    cases ms with
    | nil => exact hmember
    | cons next ms =>
      have htext : commaMembers (((key, scalar) :: next :: ms).map writtenMember) =
          quote key.toList ++ ':' :: scalar.written ++ ',' :: commaMembers ((next :: ms).map writtenMember) := rfl
      rw [htext, List.mem_append, List.mem_cons]
      rintro (h | h | h)
      · exact hmember h
      · cases h
      · exact ih h

/-- Writer and reader are a library as it is documented. -/
instance documented : Codec.Documented where
  read_write := read_object
  braced _ := ⟨_, rfl⟩
  unbroken ms := by
    have hbody := unbroken_commaMembers ms
    show '\n' ∉ object (ms.map writtenMember)
    simp [object, hbody]

end CanBus.Json
