/-
Module: VolumeAttach.Proofs.ListingTexts
Purpose: A list of devices can be told from either of its texts.
Main exports: Delimited, Delimited.flatMap, Listing.readChar?_escapeChar,
  Listing.json_injective, Listing.lines_inj
-/
import VolumeAttach.Command.Listing
import VolumeAttach.Text.Hex

namespace VolumeAttach

open Text

/-!
What is written piece by piece can be told apart if each piece shows where it ends: a
character of a JSON text by its own form, a text by the quote behind it, a number by the line
break, and a list by what stands where the next device would begin.  Lines show it too, as
long as no name has a line break in it; a tab in a name does not matter, since none follows
the last one.
-/

/-! ### Pieces that show where they end -/

section Pieces

variable {α : Type} {mark : Char} {write : α → List Char}

/-- What is written shows where it ends, whatever follows. -/
def Delimited (write : α → List Char) : Prop :=
  ∀ a b xs ys, write a ++ xs = write b ++ ys → a = b ∧ xs = ys

/-- What can be read off the front of a text shows where it ends. -/
theorem Delimited.of_read {read : List Char → Option (α × List Char)}
    (h : ∀ a xs, read (write a ++ xs) = some (a, xs)) : Delimited write := by
  intro a b xs ys same
  have found := h a xs
  rw [same, h b ys] at found
  obtain ⟨first, rest⟩ := Prod.mk.inj (Option.some.inj found)
  exact ⟨first.symm, rest.symm⟩

/-- A fixed text in front changes nothing. -/
theorem Delimited.behind (front : List Char) (h : Delimited write) :
    Delimited fun a => front ++ write a := by
  intro a b xs ys same
  simp only [List.append_assoc] at same
  exact h a b xs ys (List.append_cancel_left same)

/-- What stands before a mark and has none itself ends at the mark. -/
theorem append_mark_inj {xs ys us vs : List Char} (hx : mark ∉ xs) (hy : mark ∉ ys)
    (same : xs ++ mark :: us = ys ++ mark :: vs) : xs = ys ∧ us = vs := by
  induction xs generalizing ys with
  | nil =>
      cases ys with
      | nil => exact ⟨rfl, (List.cons.inj same).2⟩
      | cons y ys =>
          obtain ⟨rfl, -⟩ := List.cons.inj same
          exact absurd List.mem_cons_self hy
  | cons x xs ih =>
      cases ys with
      | nil =>
          obtain ⟨rfl, -⟩ := List.cons.inj same
          exact absurd List.mem_cons_self hx
      | cons y ys =>
          obtain ⟨rfl, rest⟩ := List.cons.inj same
          obtain ⟨rfl, after⟩ := ih (fun h => hx (List.mem_cons_of_mem _ h))
            (fun h => hy (List.mem_cons_of_mem _ h)) rest
          exact ⟨rfl, after⟩

/-- A list of such pieces ends at a mark that opens none of them. -/
theorem Delimited.flatMap (h : Delimited write) (apart : ∀ a xs ys, write a ++ xs ≠ mark :: ys) :
    Delimited fun as : List α => as.flatMap write ++ [mark] := by
  intro as bs xs ys same
  simp only [List.append_assoc, List.singleton_append] at same
  induction as generalizing bs with
  | nil =>
      cases bs with
      | nil => exact ⟨rfl, (List.cons.inj same).2⟩
      | cons b bs =>
          rw [List.flatMap_cons, List.append_assoc] at same
          exact absurd same.symm (apart _ _ _)
  | cons a as ih =>
      rw [List.flatMap_cons, List.append_assoc] at same
      cases bs with
      | nil => exact absurd same (apart _ _ _)
      | cons b bs =>
          rw [List.flatMap_cons, List.append_assoc] at same
          obtain ⟨rfl, rest⟩ := h _ _ _ _ same
          obtain ⟨rfl, after⟩ := ih bs rest
          exact ⟨rfl, after⟩

end Pieces

namespace Listing

variable {a b : List DeviceEntry}

/-! ### Numbers -/

/-- A number is written in digits only. -/
theorem isDigit_of_mem_toString {n : Nat} {c : Char} (h : c ∈ (toString n).toList) : c.isDigit := by
  rw [Nat.toString_eq_repr, Nat.toList_repr] at h
  exact Nat.isDigit_of_mem_toDigits (by decide) (by decide) h

theorem not_mem_toString {n : Nat} {mark : Char} (other : mark.isDigit = false) :
    mark ∉ (toString n).toList := by
  intro h
  rw [isDigit_of_mem_toString h] at other
  cases other

theorem toString_inj {m n : Nat} (same : (toString m).toList = (toString n).toList) : m = n := by
  rw [Nat.toString_eq_repr, Nat.toString_eq_repr, Nat.toList_repr, Nat.toList_repr] at same
  rw [← Nat.ofDigitChars_toDigits (b := 10) (n := m) (by decide) (by decide), same,
    Nat.ofDigitChars_toDigits (by decide) (by decide)]

/-- Devices of one name whose sizes are written alike are one device. -/
theorem eq_of_written {d e : DeviceEntry} (names : d.name = e.name)
    (sizes : (toString d.size.toNat).toList = (toString e.size.toNat).toList) : d = e := by
  obtain ⟨name, size⟩ := d
  obtain ⟨other, bytes⟩ := e
  obtain rfl : name = other := names
  obtain rfl : size = bytes := UInt64.toNat_inj.mp (toString_inj sizes)
  rfl

/-! ### JSON -/

/-- The character that an escape stands for. -/
def unescaped : Char → Char
  | 'b' => '\x08'
  | 'f' => '\x0c'
  | 'n' => '\n'
  | 'r' => '\r'
  | 't' => '\t'
  | c => c

/-- The first character of a JSON text, and what follows it. -/
def readChar? : List Char → Option (Char × List Char)
  | '\\' :: 'u' :: '0' :: '0' :: high :: low :: rest =>
      some (Char.ofNat (numberIn 16 [high, low]), rest)
  | '\\' :: c :: rest => some (unescaped c, rest)
  | c :: rest => some (c, rest)
  | [] => none

theorem numberIn_hexDigit {n : Nat} (small : n < 32) :
    numberIn 16 [hexDigit (n / 16), hexDigit n] = n := by
  have each : ∀ m : Fin 32, numberIn 16 [hexDigit (m / 16), hexDigit m] = m := by decide
  exact each ⟨n, small⟩

/-- A character is read back from the form in which it is written. -/
theorem readChar?_escapeChar (c : Char) (rest : List Char) :
    readChar? (escapeChar c ++ rest) = some (c, rest) := by
  unfold escapeChar
  split
  case h_8 notQuote notSlash _ _ _ _ _ =>
    split
    · rename_i control
      simp only [List.cons_append, List.nil_append, readChar?, numberIn_hexDigit control,
        Char.ofNat_toNat]
    · rw [List.singleton_append, readChar?]
      · intro high low rest slash
        exact absurd slash notSlash
      · intro d rest slash
        exact absurd slash notSlash
  all_goals rfl

/-- No character is written with a quote in front. -/
theorem escapeChar_append_ne (c : Char) (xs ys : List Char) : escapeChar c ++ xs ≠ '"' :: ys := by
  unfold escapeChar
  split
  case h_8 notQuote _ _ _ _ _ _ =>
    split
    · simp
    · intro same
      exact notQuote (List.cons.inj same).1
  all_goals simp

/-- A JSON text ends with its quote. -/
theorem delimited_jsonText : Delimited fun s : String => (jsonText s).toList := by
  have body := (Delimited.of_read readChar?_escapeChar).flatMap escapeChar_append_ne
  intro s t xs ys same
  simp only [jsonText, String.toList_ofList, List.cons_append, List.cons.injEq, true_and] at same
  obtain ⟨texts, rest⟩ := body _ _ _ _ same
  exact ⟨String.toList_inj.mp texts, rest⟩

/-- A name and a number with fixed texts around them show where they end, if a line break
follows the number. -/
theorem delimited_parts (before between : List Char) {after tail : List Char}
    (breaks : after = '\n' :: tail) :
    Delimited fun e : DeviceEntry => before ++ (jsonText e.name).toList ++ between ++
      (toString e.size.toNat).toList ++ after := by
  subst breaks
  intro d e xs ys same
  simp only [List.append_assoc, List.cons_append] at same
  obtain ⟨names, rest⟩ := delimited_jsonText _ _ _ _ (List.append_cancel_left same)
  obtain ⟨sizes, rest⟩ := append_mark_inj (not_mem_toString rfl) (not_mem_toString rfl)
    (List.append_cancel_left rest)
  exact ⟨eq_of_written names sizes, List.append_cancel_left rest⟩

theorem toList_jsonEntry (e : DeviceEntry) :
    (jsonEntry e).toList = "  \x7b\n    \"name\": ".toList ++ (jsonText e.name).toList ++
      ",\n    \"size\": ".toList ++ (toString e.size.toNat).toList ++ "\n  \x7d".toList := by
  unfold jsonEntry
  simp only [String.toList_append]

/-- A device's object shows where it ends. -/
theorem delimited_jsonEntry : Delimited fun e : DeviceEntry => (jsonEntry e).toList := by
  have breaks : "\n  \x7d".toList = '\n' :: [' ', ' ', '\x7d'] := by simp
  simp only [toList_jsonEntry]
  exact delimited_parts _ _ breaks

/-- Texts with a separator between them are the first of them and then the others, each behind
a separator. -/
theorem toList_intercalate_cons (separator first : String) (rest : List String) :
    (separator.intercalate (first :: rest)).toList =
      first.toList ++ rest.flatMap fun text => separator.toList ++ text.toList := by
  induction rest generalizing first with
  | nil => simp
  | cons second rest ih =>
      rw [String.intercalate_cons_cons, String.toList_append, String.toList_append, ih,
        List.flatMap_cons]
      simp only [List.append_assoc]

theorem toList_json_cons (e : DeviceEntry) (rest : List DeviceEntry) :
    (json (e :: rest)).toList = "[\n".toList ++ ((jsonEntry e).toList ++
      ((rest.flatMap fun d => ",\n".toList ++ (jsonEntry d).toList) ++ "\n]\n".toList)) := by
  have body := toList_intercalate_cons ",\n" (jsonEntry e) (rest.map jsonEntry)
  rw [List.flatMap_map] at body
  unfold json
  rw [if_neg (by simp), String.toList_append, String.toList_append, List.map_cons, body]
  simp only [List.append_assoc]

/-- Devices behind separators end at the line break before the bracket. -/
theorem delimited_jsonRest : Delimited fun rest : List DeviceEntry =>
    (rest.flatMap fun d => ",\n".toList ++ (jsonEntry d).toList) ++ ['\n'] := by
  apply (delimited_jsonEntry.behind ",\n".toList).flatMap
  intro e xs ys same
  have separator : ",\n".toList = [',', '\n'] := by simp
  rw [separator] at same
  simp at same

/-- The JSON text of a list tells the list. -/
theorem json_injective : Function.Injective json := by
  have opens : "[\n".toList = ['[', '\n'] := by simp
  have closes : "\n]\n".toList = ['\n'] ++ [']', '\n'] := by simp
  have empty : (json []).toList = ['[', ']', '\n'] := by
    unfold json
    simp
  intro a b same
  have texts := congrArg String.toList same
  cases a with
  | nil =>
      cases b with
      | nil => rfl
      | cons e rest =>
          rw [toList_json_cons, empty, opens] at texts
          simp at texts
  | cons d more =>
      cases b with
      | nil =>
          rw [toList_json_cons, empty, opens] at texts
          simp at texts
      | cons e rest =>
          rw [toList_json_cons, toList_json_cons, closes, ← List.append_assoc _ ['\n'],
            ← List.append_assoc _ ['\n']] at texts
          obtain ⟨rfl, after⟩ := delimited_jsonEntry _ _ _ _ (List.append_cancel_left texts)
          obtain ⟨rfl, -⟩ := delimited_jsonRest _ _ _ _ after
          rfl

/-! ### Lines -/

/-- The characters of a line before its line break. -/
theorem toList_line (e : DeviceEntry) (rest : List Char) :
    (line e).toList ++ rest =
      (e.name.toList ++ '\t' :: (toString e.size.toNat).toList) ++ '\n' :: rest := by
  have tab : "\t".toList = ['\t'] := by simp
  have lineBreak : "\n".toList = ['\n'] := by simp
  unfold line
  simp only [String.toList_append, tab, lineBreak, List.append_assoc, List.cons_append,
    List.nil_append]

/-- A line ends at its line break, and its last tab stands before the size. -/
theorem line_append_inj {d e : DeviceEntry} {xs ys : List Char} (hd : '\n' ∉ d.name.toList)
    (he : '\n' ∉ e.name.toList) (same : (line d).toList ++ xs = (line e).toList ++ ys) :
    d = e ∧ xs = ys := by
  have unbroken : ∀ e : DeviceEntry, '\n' ∉ e.name.toList →
      '\n' ∉ e.name.toList ++ '\t' :: (toString e.size.toNat).toList := by
    intro e he
    simp only [List.mem_append, List.mem_cons, not_or]
    exact ⟨he, by decide, not_mem_toString rfl⟩
  rw [toList_line, toList_line] at same
  obtain ⟨lines, rest⟩ := append_mark_inj (unbroken d hd) (unbroken e he) same
  refine ⟨?_, rest⟩
  have backwards := congrArg List.reverse lines
  simp only [List.reverse_append, List.reverse_cons, List.append_assoc, List.singleton_append]
    at backwards
  obtain ⟨sizes, names⟩ := append_mark_inj (mt List.mem_reverse.mp (not_mem_toString rfl))
    (mt List.mem_reverse.mp (not_mem_toString rfl)) backwards
  exact eq_of_written (String.toList_inj.mp (List.reverse_inj.mp names))
    (List.reverse_inj.mp sizes)

/-- The lines of a list tell the list, if no name has a line break in it. -/
theorem lines_inj (ha : ∀ e ∈ a, '\n' ∉ e.name.toList) (hb : ∀ e ∈ b, '\n' ∉ e.name.toList)
    (same : lines a = lines b) : a = b := by
  have texts := congrArg String.toList same
  simp only [lines, String.toList_join, List.flatMap_map] at texts
  clear same
  induction a generalizing b with
  | nil =>
      cases b with
      | nil => rfl
      | cons e rest =>
          rw [List.flatMap_nil, List.flatMap_cons, toList_line] at texts
          simp at texts
  | cons d more ih =>
      cases b with
      | nil =>
          rw [List.flatMap_nil, List.flatMap_cons, toList_line] at texts
          simp at texts
      | cons e rest =>
          obtain ⟨first, others⟩ := List.forall_mem_cons.mp ha
          obtain ⟨second, remaining⟩ := List.forall_mem_cons.mp hb
          rw [List.flatMap_cons, List.flatMap_cons] at texts
          obtain ⟨rfl, after⟩ := line_append_inj first second texts
          rw [ih others remaining after]

end Listing
end VolumeAttach
