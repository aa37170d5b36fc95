/-
Module: VolumeAttach.Proofs.Spellings
Purpose: The texts that are read as an identifier, told without the reader.
Main exports: Uuid.spellings, Uuid.IsSpelling, Uuid.parse_eq_ok_iff, Uuid.parse_text,
  Uuid.IsSpelling.isTrimmed
-/
import VolumeAttach.Proofs.Trimming
import VolumeAttach.Uuid

namespace VolumeAttach

open Text

/-!
The reader tells the four spellings apart by their length in bytes before it looks at a
digit.  Told by what they are, they need no lengths: a text spells an identifier exactly
if, in lower case, it is one of four texts that are made from the identifier's digits.
Lower case changes ASCII letters only, so a text whose lower case is plain ASCII is plain
ASCII itself, and its length in bytes is its length.
-/

/-! ### Characters in lower case -/

/-- A printed ASCII character other than the blank. -/
def IsVisible (c : Char) : Prop := 32 < c.toNat ∧ c.toNat < 127

instance (c : Char) : Decidable (IsVisible c) := inferInstanceAs (Decidable (_ ∧ _))

/-- Beyond ASCII a character is its own lower case. -/
theorem toLower_of_le {c : Char} (beyond : 128 ≤ c.toNat) : c.toLower = c := by
  unfold Char.toLower
  apply dif_neg
  intro upper
  have small : c.toNat ≤ 90 := upper.2
  omega

/-- What holds of the ASCII characters and, beyond them, of each character that is its own
lower case holds of all. -/
theorem forall_char {motive : Char → Prop} (ascii : ∀ n < 128, motive (Char.ofNat n))
    (beyond : ∀ c : Char, 128 ≤ c.toNat → c.toLower = c → motive c) (c : Char) : motive c := by
  rcases Nat.lt_or_ge c.toNat 128 with small | large
  · rw [← Char.ofNat_toNat c]
    exact ascii c.toNat small
  · exact beyond c large (toLower_of_le large)

/-- A character is printed if its lower case is. -/
theorem isVisible_of_toLower {c : Char} (lower : IsVisible c.toLower) : IsVisible c := by
  refine forall_char (motive := fun c => IsVisible c.toLower → IsVisible c) ?_ ?_ c lower
  · decide +kernel
  · intro c _ same visible
    rwa [same] at visible

/-- What is neither a letter nor beyond ASCII is the lower case of itself alone. -/
theorem eq_of_toLower_eq {c d : Char} (h : c.toLower = d) (mark : d ∈ ['-', '\x7b', '\x7d']) :
    c = d := by
  subst h
  refine forall_char
    (motive := fun c => c.toLower ∈ ['-', '\x7b', '\x7d'] → c = c.toLower) ?_ ?_ c mark
  · decide +kernel
  · intro c _ same _
    exact same.symm

/-- A printed character is one byte long. -/
theorem IsVisible.utf8Size {c : Char} (visible : IsVisible c) : c.utf8Size = 1 := by
  have small : c.val ≤ 127 := by
    obtain ⟨-, high⟩ := visible
    exact Nat.le_of_lt_succ (Nat.lt_succ_of_lt high)
  exact if_pos small

/-- A printed character is no blank. -/
theorem IsVisible.isBlank {c : Char} (visible : IsVisible c) : isBlank c = false := by
  refine forall_char (motive := fun c => IsVisible c → Text.isBlank c = false) ?_ ?_ c visible
  · decide +kernel
  · intro c large _ visible
    obtain ⟨-, high⟩ := visible
    omega

namespace Uuid

variable {u : Uuid} {cs : List Char} {s : String}

/-- A printed character is one byte long, so a text of them has as many bytes as characters. -/
theorem byteLength_of_visible (visible : ∀ c ∈ cs, IsVisible c) : byteLength cs = cs.length := by
  induction cs with
  | nil => rfl
  | cons c rest ih =>
      have first := (visible c List.mem_cons_self).utf8Size
      rw [byteLength, first, ih fun d hd => visible d (List.mem_cons_of_mem c hd),
        List.length_cons, Nat.add_comm]

/-! ### Digits and groups -/

/-- A digit is written as a printed character that is no hyphen. -/
theorem hexChar_isVisible (d : Fin 16) : IsVisible (hexChar d) ∧ hexChar d ≠ '-' := by
  revert d
  decide

/-- Beyond ASCII there are no digits. -/
theorem hexDigit?_of_le {c : Char} (beyond : 128 ≤ c.toNat) : hexDigit? c = none := by
  have noValue : hexValue? c = none := by
    have value : c.val.toNat = c.toNat := rfl
    unfold hexValue?
    simp only [Char.le_def, UInt32.le_iff_toNat_le, value, Char.reduceVal, UInt32.reduceToNat]
    grind
  rw [hexDigit?, noValue]
  rfl

/-- A character is read as a digit exactly if in lower case it is how the digit is written. -/
theorem hexDigit?_eq_some_iff {c : Char} {d : Fin 16} :
    hexDigit? c = some d ↔ c.toLower = hexChar d := by
  apply forall_char (motive := fun c => hexDigit? c = some d ↔ c.toLower = hexChar d)
  · revert d
    decide +kernel
  · intro c large same
    have small := (hexChar_isVisible d).1.2
    have other : c ≠ hexChar d := by
      intro h
      rw [h] at large
      omega
    simp [hexDigit?_of_le large, same, other]

/-- The same for texts. -/
theorem mapM_hexDigit?_eq_some_iff {digits : List (Fin 16)} :
    cs.mapM hexDigit? = some digits ↔ cs.map Char.toLower = digits.map hexChar := by
  induction cs generalizing digits with
  | nil => cases digits <;> simp
  | cons c rest ih =>
      rw [List.mapM_cons]
      cases digits with
      | nil =>
          cases hexDigit? c with
          | none => simp
          | some d => cases rest.mapM hexDigit? <;> simp
      | cons d others =>
          rw [List.map_cons, List.map_cons, List.cons.injEq, ← hexDigit?_eq_some_iff, ← ih]
          cases hexDigit? c with
          | none => simp
          | some e => cases rest.mapM hexDigit? <;> simp

/-- A text is read as bare digits exactly if in lower case it is the digits as written. -/
theorem ofDigits?_eq_some_iff :
    ofDigits? cs = some u ↔ cs.map Char.toLower = u.digits.map hexChar := by
  rw [← mapM_hexDigit?_eq_some_iff]
  unfold ofDigits?
  cases cs.mapM hexDigit? with
  | none => simp
  | some digits =>
      simp only [Option.some.injEq]
      constructor
      · intro h
        split at h
        · rw [← Option.some.inj h]
        · cases h
      · intro h
        subst h
        exact dif_pos u.length_digits

/-- The five groups of an identifier as they are written. -/
def groups (u : Uuid) : List (List Char) :=
  let cs := u.digits.map hexChar
  [cs.take 8, (cs.drop 8).take 4, (cs.drop 12).take 4, (cs.drop 16).take 4, cs.drop 20]

theorem chars_eq_joinPieces (u : Uuid) : u.chars = joinPieces '-' u.groups := by
  simp [chars, groups, joinPieces]

theorem length_groups (u : Uuid) : u.groups.map List.length = groupLengths := by
  simp [groups, groupLengths, u.length_digits]

theorem flatten_groups (u : Uuid) : u.groups.flatten = u.digits.map hexChar := by
  have second := List.take_append_drop 4 ((u.digits.map hexChar).drop 8)
  have third := List.take_append_drop 4 ((u.digits.map hexChar).drop 12)
  have fourth := List.take_append_drop 4 ((u.digits.map hexChar).drop 16)
  rw [List.drop_drop] at second third fourth
  simp only [groups, List.flatten_cons, List.flatten_nil, List.append_nil]
  rw [fourth, third, second, List.take_append_drop]

/-- Cutting the written form at its hyphens gives the groups back. -/
theorem pieces_chars (u : Uuid) : pieces '-' u.chars = u.groups := by
  rw [chars_eq_joinPieces]
  apply pieces_joinPieces (by simp [groups])
  intro piece hpiece hyphen
  have written : '-' ∈ u.digits.map hexChar := by
    rw [← flatten_groups]
    exact List.mem_flatten.mpr ⟨piece, hpiece, hyphen⟩
  obtain ⟨d, -, same⟩ := List.mem_map.mp written
  exact (hexChar_isVisible d).2 same

/-- A text is the written form exactly if its pieces have the lengths of the groups and the
digits in them. -/
theorem pieces_eq_groups_iff :
    (pieces '-' cs).map List.length = groupLengths ∧
        (pieces '-' cs).flatten = u.digits.map hexChar ↔ cs = u.chars := by
  constructor
  · intro h
    obtain ⟨lengths, digits⟩ := h
    have same : pieces '-' cs = u.groups := by
      rw [List.eq_iff_flatten_eq, digits, lengths]
      exact ⟨u.flatten_groups.symm, u.length_groups.symm⟩
    rw [← joinPieces_pieces '-' cs, same, chars_eq_joinPieces]
  · intro h
    rw [h, pieces_chars]
    exact ⟨u.length_groups, u.flatten_groups⟩

/-- Lower case leaves the hyphens where they are. -/
theorem pieces_map_toLower (cs : List Char) :
    pieces '-' (cs.map Char.toLower) = (pieces '-' cs).map (List.map Char.toLower) := by
  induction cs with
  | nil => rfl
  | cons c rest ih =>
      obtain ⟨first, others, h⟩ := exists_pieces '-' rest
      rw [h, List.map_cons] at ih
      by_cases hyphen : c = '-'
      · subst hyphen
        have kept : ('-' : Char).toLower = '-' := rfl
        rw [List.map_cons, kept, pieces_cons_separator, pieces_cons_separator, ih, h]
        rfl
      · have other : c.toLower ≠ '-' := fun same => hyphen (eq_of_toLower_eq same (by simp))
        rw [List.map_cons, pieces_cons_of_ne hyphen h, pieces_cons_of_ne other ih]
        rfl

/-- A text is read as groups exactly if in lower case it is the written form. -/
theorem ofGroups?_eq_some_iff : ofGroups? cs = some u ↔ cs.map Char.toLower = u.chars := by
  have lengths : (pieces '-' (cs.map Char.toLower)).map List.length =
      (pieces '-' cs).map List.length := by
    rw [pieces_map_toLower, List.map_map]
    apply List.map_congr_left
    intro piece _
    exact List.length_map ..
  have digits : (pieces '-' (cs.map Char.toLower)).flatten =
      (pieces '-' cs).flatten.map Char.toLower := by
    rw [pieces_map_toLower, List.map_flatten]
  rw [← pieces_eq_groups_iff, lengths, digits, ofGroups?]
  split
  · rename_i right
    rw [ofDigits?_eq_some_iff]
    exact (and_iff_right right).symm
  · rename_i wrong
    simp [wrong]

/-! ### Spellings -/

/-- The spellings of an identifier in lower case: its digits alone, in groups, in groups
between braces and in groups behind the mark of a URN. -/
def spellings (u : Uuid) : List (List Char) :=
  [u.digits.map hexChar, u.chars, '\x7b' :: (u.chars ++ ['\x7d']), urnMark ++ u.chars]

/-- A text spells an identifier if in lower case it is one of the identifier's spellings. -/
def IsSpelling (u : Uuid) (cs : List Char) : Prop := cs.map Char.toLower ∈ u.spellings

instance (u : Uuid) (cs : List Char) : Decidable (u.IsSpelling cs) :=
  inferInstanceAs (Decidable (_ ∈ _))

theorem length_chars (u : Uuid) : u.chars.length = 36 := by
  simp [chars, u.length_digits]

/-- The written form is made of hyphens and written digits. -/
theorem eq_hyphen_or_hexChar {c : Char} (h : c ∈ u.chars) : c = '-' ∨ ∃ d, hexChar d = c := by
  have parts : c = '-' ∨ c ∈ u.digits.map hexChar := by
    simp only [chars, List.mem_append, List.mem_cons] at h
    grind [List.mem_of_mem_take, List.mem_of_mem_drop]
  rcases parts with hyphen | digit
  · exact .inl hyphen
  · obtain ⟨d, -, same⟩ := List.mem_map.mp digit
    exact .inr ⟨d, same⟩

/-- The written form is printed. -/
theorem isVisible_of_mem_chars {c : Char} (h : c ∈ u.chars) : IsVisible c := by
  rcases eq_hyphen_or_hexChar h with rfl | ⟨d, rfl⟩
  · decide
  · exact (hexChar_isVisible d).1

/-- The written form is in lower case. -/
theorem map_toLower_chars (u : Uuid) : u.chars.map Char.toLower = u.chars := by
  conv_rhs => rw [← List.map_id u.chars]
  apply List.map_congr_left
  intro c hc
  rcases eq_hyphen_or_hexChar hc with rfl | ⟨d, rfl⟩
  · rfl
  · exact hexDigit?_eq_some_iff.mp (hexDigit?_hexChar d)

/-- So is every spelling. -/
theorem IsSpelling.isVisible (spells : u.IsSpelling cs) : ∀ c ∈ cs, IsVisible c := by
  intro c hc
  apply isVisible_of_toLower
  have lower : c.toLower ∈ cs.map Char.toLower := List.mem_map_of_mem hc
  have mark : ∀ d ∈ urnMark, IsVisible d := by simp [urnMark, IsVisible]
  simp only [IsSpelling, spellings, List.mem_cons, List.not_mem_nil, or_false] at spells
  rcases spells with digits | groups | braced | urn
  · rw [digits] at lower
    obtain ⟨d, -, same⟩ := List.mem_map.mp lower
    rw [← same]
    exact (hexChar_isVisible d).1
  · rw [groups] at lower
    exact isVisible_of_mem_chars lower
  · rw [braced] at lower
    simp only [List.mem_cons, List.mem_append, List.not_mem_nil, or_false] at lower
    rcases lower with opens | inside | closes
    · rw [opens]
      decide
    · exact isVisible_of_mem_chars inside
    · rw [closes]
      decide
  · rw [urn, List.mem_append] at lower
    rcases lower with before | inside
    · exact mark _ before
    · exact isVisible_of_mem_chars inside

/-- No blank belongs to a spelling. -/
theorem IsSpelling.isTrimmed (spells : u.IsSpelling cs) : IsTrimmed cs :=
  isTrimmed_of_forall fun c hc => (spells.isVisible c hc).isBlank

/-- The text between two braces. -/
theorem insideBraces?_eq_some_iff {part : List Char} :
    insideBraces? cs = some part ↔ cs = '\x7b' :: (part ++ ['\x7d']) := by
  unfold insideBraces?
  split
  · rename_i rest
    constructor
    · intro h
      split at h
      · rename_i closed
        obtain ⟨front, rfl⟩ := List.getLast?_eq_some_iff.mp closed
        rw [List.dropLast_concat] at h
        rw [Option.some.inj h]
      · cases h
    · intro h
      obtain rfl := (List.cons.inj h).2
      simp
  · rename_i unopened
    constructor
    · exact nofun
    · intro h
      exact absurd h (unopened _)

/-- The text behind the mark of a URN. -/
theorem afterUrnMark?_eq_some_iff {part : List Char} :
    afterUrnMark? cs = some part ↔
      ∃ mark, mark.map Char.toLower = urnMark ∧ cs = mark ++ part := by
  unfold afterUrnMark?
  constructor
  · intro h
    split at h
    · rename_i marked
      refine ⟨cs.take 9, marked, ?_⟩
      rw [← Option.some.inj h, List.take_append_drop]
    · cases h
  · intro h
    obtain ⟨mark, marked, rfl⟩ := h
    have nine : mark.length = 9 := by
      have lengths := congrArg List.length marked
      rwa [List.length_map] at lengths
    rw [List.take_left' nine, List.drop_left' nine]
    exact if_pos marked

/-! ### Reading -/

/-- The groups are looked for in the whole text, between braces or behind the mark. -/
theorem groupedPart?_cases {part : List Char} (h : groupedPart? cs = some part) :
    cs = part ∨ insideBraces? cs = some part ∨ afterUrnMark? cs = some part := by
  unfold groupedPart? at h
  split at h
  · exact .inl (Option.some.inj h)
  · exact .inr (.inl h)
  · exact .inr (.inr h)
  · cases h

theorem parseChars_of_part {part : List Char} (h : groupedPart? cs = some part) :
    parseChars cs = .ok u ↔ part.map Char.toLower = u.chars := by
  rw [← ofGroups?_eq_some_iff]
  simp only [parseChars, h]
  cases ofGroups? part <;> simp

theorem parseChars_of_whole (h : groupedPart? cs = none) :
    parseChars cs = .ok u ↔ cs.map Char.toLower = u.digits.map hexChar := by
  rw [← ofDigits?_eq_some_iff]
  simp only [parseChars, h]
  cases ofDigits? cs <;> simp

/-- The part of a text that is read decides how it spells an identifier. -/
theorem IsSpelling.of_parseChars (h : parseChars cs = .ok u) : u.IsSpelling cs := by
  unfold IsSpelling spellings
  cases hpart : groupedPart? cs with
  | none =>
      rw [(parseChars_of_whole hpart).mp h]
      simp
  | some part =>
      have grouped := (parseChars_of_part hpart).mp h
      rcases groupedPart?_cases hpart with rfl | braced | urn
      · simp [grouped]
      · rw [insideBraces?_eq_some_iff.mp braced, List.map_cons, List.map_append, grouped]
        simp
      · obtain ⟨mark, marked, rfl⟩ := afterUrnMark?_eq_some_iff.mp urn
        rw [List.map_append, marked, grouped]
        simp

/-- Every spelling is read: its length tells which part of it to read. -/
theorem IsSpelling.parseChars (spells : u.IsSpelling cs) : parseChars cs = .ok u := by
  have bytes : byteLength cs = (cs.map Char.toLower).length := by
    rw [byteLength_of_visible spells.isVisible, List.length_map]
  simp only [IsSpelling, spellings, List.mem_cons, List.not_mem_nil, or_false] at spells
  rcases spells with digits | groups | braced | urn
  · have whole : groupedPart? cs = none := by
      simp [groupedPart?, bytes, digits, u.length_digits]
    exact (parseChars_of_whole whole).mpr digits
  · have part : groupedPart? cs = some cs := by
      simp [groupedPart?, bytes, groups, u.length_chars]
    exact (parseChars_of_part part).mpr groups
  · obtain ⟨opens, tail, rfl, hopens, htail⟩ := List.map_eq_cons_iff.mp braced
    obtain ⟨inside, closes, rfl, hinside, hcloses⟩ := List.map_eq_append_iff.mp htail
    obtain ⟨last, rfl, hlast⟩ := List.map_eq_singleton_iff.mp hcloses
    obtain rfl := eq_of_toLower_eq hopens (by simp)
    obtain rfl := eq_of_toLower_eq hlast (by simp)
    have part : groupedPart? ('\x7b' :: (inside ++ ['\x7d'])) = some inside := by
      rw [groupedPart?, bytes, braced]
      simpa [u.length_chars] using insideBraces?_eq_some_iff.mpr rfl
    exact (parseChars_of_part part).mpr hinside
  · obtain ⟨mark, inside, rfl, hmark, hinside⟩ := List.map_eq_append_iff.mp urn
    have part : groupedPart? (mark ++ inside) = some inside := by
      rw [groupedPart?, bytes, urn]
      simpa [u.length_chars, urnMark] using afterUrnMark?_eq_some_iff.mpr ⟨mark, hmark, rfl⟩
    exact (parseChars_of_part part).mpr hinside

/-- An identifier is read from its spellings and from no other text. -/
theorem parse_eq_ok_iff : parse s = .ok u ↔ u.IsSpelling s.toList :=
  ⟨IsSpelling.of_parseChars, IsSpelling.parseChars⟩

/-- A text without an identifier is one that spells none. -/
theorem exists_parse_error_iff :
    (∃ cause, parse s = .error cause) ↔ ∀ u : Uuid, ¬ u.IsSpelling s.toList := by
  constructor
  · intro h u spells
    obtain ⟨cause, fails⟩ := h
    rw [parse_eq_ok_iff.mpr spells] at fails
    cases fails
  · intro none
    cases h : parse s with
    | error cause => exact ⟨cause, rfl⟩
    | ok u => exact absurd (parse_eq_ok_iff.mp h) (none u)

/-- A text spells one identifier at most. -/
theorem IsSpelling.unique {other : Uuid} (spells : u.IsSpelling cs) (too : other.IsSpelling cs) :
    u = other :=
  Except.ok.inj (spells.parseChars.symm.trans too.parseChars)

/-- The written form spells its identifier. -/
theorem isSpelling_text (u : Uuid) : u.IsSpelling u.text.toList := by
  rw [IsSpelling, text, String.toList_ofList, map_toLower_chars]
  simp [spellings]

/-- Writing an identifier and reading it gives the identifier. -/
@[simp] theorem parse_text (u : Uuid) : parse u.text = .ok u :=
  parse_eq_ok_iff.mpr u.isSpelling_text

end Uuid
end VolumeAttach
