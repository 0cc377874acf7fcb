import Mathlib.Data.List.Basic

/-!
# Text as lists of characters

The few operations on text that a request parser needs: trimming, stripping a
prefix, splitting at a separator, and the two views of text as bytes.
-/

namespace Rtun.Text

universe u
variable {α : Type u} [DecidableEq α]

/-- `char::is_whitespace`: the Unicode property White_Space. -/
def isWhitespace (char : Char) : Bool :=
  let code := char.toNat
  (0x09 ≤ code && code ≤ 0x0d) || code = 0x20 || code = 0x85 || code = 0xa0 || code = 0x1680 ||
    (0x2000 ≤ code && code ≤ 0x200a) || code = 0x2028 || code = 0x2029 || code = 0x202f ||
    code = 0x205f || code = 0x3000

/-- `str::trim`: without the white space at both ends. -/
def trim (text : List Char) : List Char :=
  ((text.dropWhile isWhitespace).reverse.dropWhile isWhitespace).reverse

/-- `str::strip_prefix`: what follows the prefix, if the text starts with it. -/
def stripPrefix : List α → List α → Option (List α)
  | [], text => some text
  | _ :: _, [] => none
  | first :: rest, char :: text => if first = char then stripPrefix rest text else none

/-- `str::split` at a single character: never empty, and one part more than
separators. -/
def split (separator : α) : List α → List (List α)
  | [] => [[]]
  | char :: text =>
      if char = separator then [] :: split separator text
      else
        match split separator text with
        | [] => [[char]]
        | first :: others => (char :: first) :: others

/-- `str::split_once`: the parts before and after the first separator. -/
def splitOnce (separator : α) : List α → Option (List α × List α)
  | [] => none
  | char :: text =>
      if char = separator then some ([], text)
      else (splitOnce separator text).map (fun parts => (char :: parts.1, parts.2))

/-- The UTF-8 bytes of a text. -/
def asBytes (text : String) : List UInt8 := text.toByteArray.data.toList

/-- Stripping succeeds exactly when the text is the prefix followed by the
rest. -/
theorem stripPrefix_some_iff (start text rest : List α) :
    stripPrefix start text = some rest ↔ text = start ++ rest := by
  induction start generalizing text with
  | nil => simp [stripPrefix]
  | cons first others inductionHypothesis =>
    cases text with
    | nil => simp [stripPrefix]
    | cons char text =>
      by_cases same : first = char
      · subst same
        simp [stripPrefix, inductionHypothesis]
      · simp [stripPrefix, same, Ne.symm same]

/-- Texts with the same bytes are the same. -/
theorem asBytes_inj (left right : String) : asBytes left = asBytes right ↔ left = right := by
  constructor
  · intro same
    apply String.toByteArray_inj.mp
    apply ByteArray.ext
    exact Array.toList_inj.mp same
  · rintro rfl
    rfl

/-- Splitting at the first separator gives this part in front of it exactly when
the text starts with the part and the separator, and the part does not have it. -/
theorem splitOnce_some_iff (separator : α) (text first rest : List α) :
    splitOnce separator text = some (first, rest) ↔
      text = first ++ separator :: rest ∧ separator ∉ first := by
  induction text generalizing first with
  | nil => simp [splitOnce]
  | cons char text inductionHypothesis =>
    by_cases isSeparator : char = separator
    · subst isSeparator
      cases first with
      | nil => simp [splitOnce, eq_comm]
      | cons head others =>
        have starts : splitOnce char (char :: text) ≠ some (head :: others, rest) := by
          simp [splitOnce]
        simp only [starts, false_iff, List.cons_append, List.cons.injEq, not_and, not_not]
        rintro ⟨rfl, _⟩
        exact List.mem_cons_self
    · cases first with
      | nil => simp [splitOnce, isSeparator]
      | cons head others =>
        have found : splitOnce separator (char :: text) = some (head :: others, rest) ↔
            char = head ∧ splitOnce separator text = some (others, rest) := by
          simp only [splitOnce, if_neg isSeparator, Option.map_eq_some_iff, Prod.exists,
            Prod.mk.injEq, List.cons.injEq]
          constructor
          · rintro ⟨front, back, split, ⟨same, rfl⟩, rfl⟩
            exact ⟨same, split⟩
          · rintro ⟨same, split⟩
            exact ⟨others, rest, split, ⟨same, rfl⟩, rfl⟩
        rw [found, inductionHypothesis]
        simp only [List.cons_append, List.cons.injEq, List.mem_cons, not_or]
        constructor
        · rintro ⟨rfl, rfl, absent⟩
          exact ⟨⟨rfl, rfl⟩, Ne.symm isSeparator, absent⟩
        · rintro ⟨⟨rfl, rfl⟩, _, absent⟩
          exact ⟨rfl, rfl, absent⟩

/-- The bytes of a text are those of its characters. -/
theorem asBytes_eq (text : String) : asBytes text = text.toList.flatMap String.utf8EncodeChar := by
  rw [asBytes, ← String.ofList_toList (s := text), String.toByteArray_ofList]
  simp [List.utf8Encode]

/-- A text of ASCII characters has one byte for each. -/
theorem asBytes_ascii (text : String) (ascii : ∀ char ∈ text.toList, char.toNat < 0x80) :
    asBytes text = text.toList.map (fun char => UInt8.ofNat char.toNat) := by
  have single : ∀ char ∈ text.toList,
      String.utf8EncodeChar char = [UInt8.ofNat char.toNat] := by
    intro char member
    have small : char.utf8Size = 1 := by
      have bound : char.val ≤ 0x7f := UInt32.le_iff_toNat_le.mpr (Nat.le_of_lt_succ (ascii char member))
      simp [Char.utf8Size, bound]
    rw [String.utf8EncodeChar_eq_singleton small]
    rfl
  rw [asBytes_eq, List.flatMap_congr single, ← List.map_eq_flatMap]

/-- Text without white space is trimmed. -/
theorem trim_of_visible (text : List Char) (visible : ∀ char ∈ text, isWhitespace char = false) :
    trim text = text := by
  have front (text : List Char) (visible : ∀ char ∈ text, isWhitespace char = false) :
      text.dropWhile isWhitespace = text := by
    cases text with
    | nil => rfl
    | cons char rest =>
      rw [List.dropWhile_cons_of_neg]
      rw [visible char List.mem_cons_self]
      decide
  rw [trim, front text visible, front text.reverse (fun char member =>
    visible char (List.mem_reverse.mp member)), List.reverse_reverse]

/-- Trimming adds no character. -/
theorem mem_of_mem_trim {char : Char} {text : List Char} (member : char ∈ trim text) :
    char ∈ text := by
  have inFront := List.mem_reverse.mp ((List.dropWhile_sublist _).mem (List.mem_reverse.mp member))
  exact (List.dropWhile_sublist _).mem inFront

/-- What white space is dropped from in front does not start with it. -/
theorem dropWhile_of_prefix (test : Char → Bool) (text keep : List Char)
    (start : keep <+: text.dropWhile test) : keep.dropWhile test = keep := by
  cases keep with
  | nil => rfl
  | cons char rest =>
    obtain ⟨more, whole⟩ := start
    have head := List.head?_dropWhile_not test text
    rw [← whole] at head
    exact List.dropWhile_cons_of_neg (by simpa using head)

/-- Trimming twice is trimming once. -/
theorem trim_trim (text : List Char) : trim (trim text) = trim text := by
  have front : (trim text).dropWhile isWhitespace = trim text := by
    refine dropWhile_of_prefix isWhitespace text _ ?_
    have suffix := List.dropWhile_suffix (l := (text.dropWhile isWhitespace).reverse) isWhitespace
    simpa [trim] using List.reverse_prefix.mpr suffix
  have back : (trim text).reverse.dropWhile isWhitespace = (trim text).reverse := by
    refine dropWhile_of_prefix isWhitespace (text.dropWhile isWhitespace).reverse _ ?_
    simp [trim]
  calc trim (trim text)
      = (((trim text).dropWhile isWhitespace).reverse.dropWhile isWhitespace).reverse := rfl
    _ = trim text := by rw [front, back, List.reverse_reverse]

/-- A character that is not ASCII starts with a byte that is not. -/
theorem exists_large_byte (char : Char) (large : 0x80 ≤ char.toNat) :
    ∃ byte ∈ String.utf8EncodeChar char, 0x80 ≤ byte.toNat := by
  have notAscii : ¬ char.val.toNat ≤ 0x7f := Nat.not_le.mpr large
  have isLarge (value : Nat) (low : 0x80 ≤ value) (high : value < 256) :
      0x80 ≤ (UInt8.ofNat value).toNat := by
    rw [UInt8.toNat_ofNat_of_lt' high]
    exact low
  unfold String.utf8EncodeChar
  simp only [if_neg notAscii]
  split
  · exact ⟨_, List.mem_cons_self, isLarge _ (by omega) (by omega)⟩
  · split
    · exact ⟨_, List.mem_cons_self, isLarge _ (by omega) (by omega)⟩
    · exact ⟨_, List.mem_cons_self, isLarge _ (by omega) (by omega)⟩

/-- Text without the separator is one part. -/
theorem split_of_notMem (separator : α) (text : List α) (absent : separator ∉ text) :
    split separator text = [text] := by
  induction text with
  | nil => rfl
  | cons char rest inductionHypothesis =>
    rw [List.mem_cons, not_or] at absent
    rw [split, if_neg (Ne.symm absent.1), inductionHypothesis absent.2]

/-- No part has the separator in it. -/
theorem notMem_of_mem_split (separator : α) (text part : List α)
    (member : part ∈ split separator text) : separator ∉ part := by
  induction text generalizing part with
  | nil =>
    obtain rfl : part = [] := List.mem_singleton.mp member
    exact List.not_mem_nil
  | cons char rest inductionHypothesis =>
    rw [split] at member
    split at member
    · rcases List.mem_cons.mp member with rfl | later
      · exact List.not_mem_nil
      · exact inductionHypothesis part later
    · rename_i differs
      cases parts : split separator rest with
      | nil =>
        rw [parts] at member
        obtain rfl : part = [char] := List.mem_singleton.mp member
        exact fun same => differs (List.mem_singleton.mp same).symm
      | cons first others =>
        rw [parts] at member inductionHypothesis
        rcases List.mem_cons.mp member with rfl | later
        · rw [List.mem_cons, not_or]
          exact ⟨Ne.symm differs, inductionHypothesis first List.mem_cons_self⟩
        · exact inductionHypothesis part (List.mem_cons_of_mem _ later)

end Rtun.Text
