import Eisenberg.Sse.Parser

/-!
# The parser undoes the encoding

The decoder gives back the characters of a text from its UTF-8 bytes, and the line loop gives back
the data of the events from the lines they are encoded as, whatever comments and other fields stand
between them.
-/

namespace Eisenberg.Sse

open Framework

/-! ## UTF-8 -/

section Decoding

theorem toNat_byte {n : Nat} (h : n < 256) : (UInt8.ofNat n).toNat = n := by
  simp [Nat.mod_eq_of_lt h]

theorem not_lt_byte {a b : UInt8} (h : b.toNat ≤ a.toNat) : ¬ a < b :=
  UInt8.not_lt.mpr (UInt8.le_iff_toNat_le.mpr h)

/-- The second byte of a character is in the range that its first byte allows. -/
theorem in_tailRange_second {lead b : UInt8} (hlow : 0x80 ≤ b.toNat) (hhigh : b.toNat ≤ 0xBF)
    (hE0 : lead.toNat = 0xE0 → 0xA0 ≤ b.toNat) (hED : lead.toNat = 0xED → b.toNat ≤ 0x9F)
    (hF0 : lead.toNat = 0xF0 → 0x90 ≤ b.toNat) (hF4 : lead.toNat = 0xF4 → b.toNat ≤ 0x8F) :
    (tailRange [lead]).1 ≤ b ∧ b ≤ (tailRange [lead]).2 := by
  unfold tailRange
  simp only [List.cons.injEq, and_true]
  split_ifs with h h h h <;> simp only [UInt8.le_iff_toNat_le]
  · exact ⟨hE0 (congrArg UInt8.toNat h), hhigh⟩
  · exact ⟨hlow, hED (congrArg UInt8.toNat h)⟩
  · exact ⟨hF0 (congrArg UInt8.toNat h), hhigh⟩
  · exact ⟨hlow, hF4 (congrArg UInt8.toNat h)⟩
  · exact ⟨hlow, hhigh⟩

theorem in_tailRange_later {lead second b : UInt8} {tail : List UInt8} (hlow : 0x80 ≤ b.toNat)
    (hhigh : b.toNat ≤ 0xBF) :
    (tailRange (lead :: second :: tail)).1 ≤ b ∧ b ≤ (tailRange (lead :: second :: tail)).2 := by
  simp only [tailRange, List.cons.injEq, List.cons_ne_nil, and_false, if_false,
    UInt8.le_iff_toNat_le]
  exact ⟨hlow, hhigh⟩

theorem takeLead_ascii {b : UInt8} (h : b.toNat < 0x80) :
    takeLead b = ([], [Char.ofNat b.toNat]) := by
  have hlt : b < 0x80 := UInt8.lt_iff_toNat_lt.mpr h
  rw [takeLead, if_pos hlt]

theorem takeLead_lead {b : UInt8} (hlow : 0xC2 ≤ b.toNat) (hhigh : b.toNat ≤ 0xF4) :
    takeLead b = ([b], []) := by
  have hnot : ¬ b < 0x80 := not_lt_byte (Nat.le_trans (by decide) hlow)
  have hrange : 0xC2 ≤ b ∧ b ≤ 0xF4 :=
    ⟨UInt8.le_iff_toNat_le.mpr hlow, UInt8.le_iff_toNat_le.mpr hhigh⟩
  rw [takeLead, if_neg hnot, if_pos hrange]

theorem takeByte_more {lead b : UInt8} {tail : List UInt8}
    (hrange : (tailRange (lead :: tail)).1 ≤ b ∧ b ≤ (tailRange (lead :: tail)).2)
    (hwidth : tail.length + 2 ≠ width lead) :
    takeByte (lead :: tail) b = (lead :: tail ++ [b], []) := by
  rw [takeByte, if_pos hrange, if_neg hwidth]

theorem takeByte_last {lead b : UInt8} {tail : List UInt8}
    (hrange : (tailRange (lead :: tail)).1 ≤ b ∧ b ≤ (tailRange (lead :: tail)).2)
    (hwidth : tail.length + 2 = width lead) :
    takeByte (lead :: tail) b = ([], [Char.ofNat (codePoint lead (tail ++ [b]))]) := by
  rw [takeByte, if_pos hrange, if_pos hwidth]

theorem width_two {lead : UInt8} (h : lead.toNat < 0xE0) : width lead = 2 := by
  have hlt : lead < 0xE0 := UInt8.lt_iff_toNat_lt.mpr h
  rw [width, if_pos hlt]

theorem width_three {lead : UInt8} (hlow : 0xE0 ≤ lead.toNat) (hhigh : lead.toNat < 0xF0) :
    width lead = 3 := by
  have hnot : ¬ lead < 0xE0 := not_lt_byte hlow
  have hlt : lead < 0xF0 := UInt8.lt_iff_toNat_lt.mpr hhigh
  rw [width, if_neg hnot, if_pos hlt]

theorem width_four {lead : UInt8} (hlow : 0xF0 ≤ lead.toNat) : width lead = 4 := by
  have hnot : ¬ lead < 0xE0 := not_lt_byte (Nat.le_trans (by decide) hlow)
  have hnot' : ¬ lead < 0xF0 := not_lt_byte hlow
  rw [width, if_neg hnot, if_neg hnot']

theorem codePoint_eq {lead : UInt8} {n m : Nat} (tail : List UInt8) (hwidth : width lead = n)
    (hmask : ∀ x, x &&& 0x7F >>> n = x % m) :
    codePoint lead tail =
      tail.foldl (fun n b => n * 64 + (b.toNat - 0x80)) (lead.toNat % m) := by
  rw [codePoint, hwidth, hmask]

theorem mask_two (x : Nat) : x &&& 0x7F >>> 2 = x % 32 := Nat.and_two_pow_sub_one_eq_mod x 5

theorem mask_three (x : Nat) : x &&& 0x7F >>> 3 = x % 16 := Nat.and_two_pow_sub_one_eq_mod x 4

theorem mask_four (x : Nat) : x &&& 0x7F >>> 4 = x % 8 := Nat.and_two_pow_sub_one_eq_mod x 3

variable {v : Nat}

theorem decode_one (h : v < 0x80) :
    utf8Decoder.feed [] [UInt8.ofNat v] = ([], [Char.ofNat v]) := by
  have hv : (UInt8.ofNat v).toNat = v := toNat_byte (by omega)
  have hlead := @takeLead_ascii (UInt8.ofNat v) (by omega)
  rw [hv] at hlead
  show feedAll takeByte [] _ = _
  simp [feedAll_cons, takeByte, hlead]

theorem decode_two (hlow : 0x80 ≤ v) (hhigh : v < 0x800) :
    utf8Decoder.feed [] [UInt8.ofNat (v / 64 % 32 + 0xC0), UInt8.ofNat (v % 64 + 0x80)] =
      ([], [Char.ofNat v]) := by
  have hb₀ : (UInt8.ofNat (v / 64 % 32 + 0xC0)).toNat = v / 64 % 32 + 0xC0 :=
    toNat_byte (by omega)
  have hb₁ : (UInt8.ofNat (v % 64 + 0x80)).toNat = v % 64 + 0x80 := toNat_byte (by omega)
  generalize UInt8.ofNat (v / 64 % 32 + 0xC0) = b₀ at hb₀ ⊢
  generalize UInt8.ofNat (v % 64 + 0x80) = b₁ at hb₁ ⊢
  have hwidth : width b₀ = 2 := width_two (by omega)
  have hfirst : takeByte [] b₀ = ([b₀], []) := takeLead_lead (by omega) (by omega)
  have hlast : takeByte [b₀] b₁ = ([], [Char.ofNat (codePoint b₀ [b₁])]) :=
    takeByte_last (in_tailRange_second (by omega) (by omega) (by omega) (by omega) (by omega)
      (by omega)) hwidth.symm
  have hcode : codePoint b₀ [b₁] = v := by
    rw [codePoint_eq [b₁] hwidth mask_two]
    show b₀.toNat % 32 * 64 + (b₁.toNat - 0x80) = v
    omega
  show feedAll takeByte [] _ = _
  simp [feedAll_cons, hfirst, hlast, hcode]

theorem decode_three (hlow : 0x800 ≤ v) (hhigh : v < 0x10000)
    (hsurrogate : v < 0xD800 ∨ 0xDFFF < v) :
    utf8Decoder.feed [] [UInt8.ofNat (v / 4096 % 16 + 0xE0), UInt8.ofNat (v / 64 % 64 + 0x80),
      UInt8.ofNat (v % 64 + 0x80)] = ([], [Char.ofNat v]) := by
  have hb₀ : (UInt8.ofNat (v / 4096 % 16 + 0xE0)).toNat = v / 4096 % 16 + 0xE0 :=
    toNat_byte (by omega)
  have hb₁ : (UInt8.ofNat (v / 64 % 64 + 0x80)).toNat = v / 64 % 64 + 0x80 :=
    toNat_byte (by omega)
  have hb₂ : (UInt8.ofNat (v % 64 + 0x80)).toNat = v % 64 + 0x80 := toNat_byte (by omega)
  generalize UInt8.ofNat (v / 4096 % 16 + 0xE0) = b₀ at hb₀ ⊢
  generalize UInt8.ofNat (v / 64 % 64 + 0x80) = b₁ at hb₁ ⊢
  generalize UInt8.ofNat (v % 64 + 0x80) = b₂ at hb₂ ⊢
  have hwidth : width b₀ = 3 := width_three (by omega) (by omega)
  have hfirst : takeByte [] b₀ = ([b₀], []) := takeLead_lead (by omega) (by omega)
  have hmore : takeByte [b₀] b₁ = ([b₀, b₁], []) :=
    takeByte_more (in_tailRange_second (by omega) (by omega) (by omega) (by omega) (by omega)
      (by omega)) (by simp [hwidth])
  have hlast : takeByte [b₀, b₁] b₂ = ([], [Char.ofNat (codePoint b₀ [b₁, b₂])]) :=
    takeByte_last (in_tailRange_later (by omega) (by omega)) hwidth.symm
  have hcode : codePoint b₀ [b₁, b₂] = v := by
    rw [codePoint_eq [b₁, b₂] hwidth mask_three]
    show (b₀.toNat % 16 * 64 + (b₁.toNat - 0x80)) * 64 + (b₂.toNat - 0x80) = v
    omega
  show feedAll takeByte [] _ = _
  simp [feedAll_cons, hfirst, hmore, hlast, hcode]

theorem decode_four (hlow : 0x10000 ≤ v) (hhigh : v < 0x110000) :
    utf8Decoder.feed [] [UInt8.ofNat (v / 262144 % 8 + 0xF0), UInt8.ofNat (v / 4096 % 64 + 0x80),
      UInt8.ofNat (v / 64 % 64 + 0x80), UInt8.ofNat (v % 64 + 0x80)] = ([], [Char.ofNat v]) := by
  have hb₀ : (UInt8.ofNat (v / 262144 % 8 + 0xF0)).toNat = v / 262144 % 8 + 0xF0 :=
    toNat_byte (by omega)
  have hb₁ : (UInt8.ofNat (v / 4096 % 64 + 0x80)).toNat = v / 4096 % 64 + 0x80 :=
    toNat_byte (by omega)
  have hb₂ : (UInt8.ofNat (v / 64 % 64 + 0x80)).toNat = v / 64 % 64 + 0x80 :=
    toNat_byte (by omega)
  have hb₃ : (UInt8.ofNat (v % 64 + 0x80)).toNat = v % 64 + 0x80 := toNat_byte (by omega)
  generalize UInt8.ofNat (v / 262144 % 8 + 0xF0) = b₀ at hb₀ ⊢
  generalize UInt8.ofNat (v / 4096 % 64 + 0x80) = b₁ at hb₁ ⊢
  generalize UInt8.ofNat (v / 64 % 64 + 0x80) = b₂ at hb₂ ⊢
  generalize UInt8.ofNat (v % 64 + 0x80) = b₃ at hb₃ ⊢
  have hwidth : width b₀ = 4 := width_four (by omega)
  have hfirst : takeByte [] b₀ = ([b₀], []) := takeLead_lead (by omega) (by omega)
  have hsecond : takeByte [b₀] b₁ = ([b₀, b₁], []) :=
    takeByte_more (in_tailRange_second (by omega) (by omega) (by omega) (by omega) (by omega)
      (by omega)) (by simp [hwidth])
  have hthird : takeByte [b₀, b₁] b₂ = ([b₀, b₁, b₂], []) :=
    takeByte_more (in_tailRange_later (by omega) (by omega)) (by simp [hwidth])
  have hlast : takeByte [b₀, b₁, b₂] b₃ = ([], [Char.ofNat (codePoint b₀ [b₁, b₂, b₃])]) :=
    takeByte_last (in_tailRange_later (by omega) (by omega)) hwidth.symm
  have hcode : codePoint b₀ [b₁, b₂, b₃] = v := by
    rw [codePoint_eq [b₁, b₂, b₃] hwidth mask_four]
    show ((b₀.toNat % 8 * 64 + (b₁.toNat - 0x80)) * 64 + (b₂.toNat - 0x80)) * 64 +
      (b₃.toNat - 0x80) = v
    omega
  show feedAll takeByte [] _ = _
  simp [feedAll_cons, hfirst, hsecond, hthird, hlast, hcode]

theorem decode_char (c : Char) :
    utf8Decoder.feed [] (String.utf8EncodeChar c) = ([], [c]) := by
  have hvalid : c.val.toNat < 0xD800 ∨ 0xDFFF < c.val.toNat ∧ c.val.toNat < 0x110000 := c.valid
  have hchar : Char.ofNat c.val.toNat = c := Char.ofNat_toNat c
  simp only [String.utf8EncodeChar]
  generalize c.val.toNat = v at hvalid hchar ⊢
  subst hchar
  split_ifs with hone htwo hthree
  · exact decode_one (by omega)
  · exact decode_two (by omega) (by omega)
  · exact decode_three (by omega) (by omega) (by omega)
  · exact decode_four (by omega) (by omega)

theorem decode_text (text : Text) :
    utf8Decoder.feed [] (text.flatMap String.utf8EncodeChar) = ([], text) := by
  induction text with
  | nil => exact utf8Decoder.feed_nil []
  | cons c text ih =>
    rw [List.flatMap_cons, utf8Decoder.feed_append, decode_char, ih]
    rfl

end Decoding

/-! ## The encoding of an event -/

section Encoding

inductive Ending where
  | lf | crlf
  deriving DecidableEq, Repr

/-- What stands between a line and its newline. -/
def Ending.carriage : Ending → Text
  | lf => []
  | crlf => ['\r']

inductive IgnoredField where
  | id | event | retry
  deriving DecidableEq, Repr

def IgnoredField.text : IgnoredField → Text
  | id => "id".toList
  | event => "event".toList
  | retry => "retry".toList

inductive Line where
  | data (text : Text)
  | comment (text : Text)
  /-- The name alone, or with a colon and what follows it. -/
  | field (name : IgnoredField) (value : Option Text)
  deriving DecidableEq, Repr

def Line.text : Line → Text
  | data text => "data: ".toList ++ text
  | comment text => ':' :: text
  | field name none => name.text
  | field name (some value) => name.text ++ ':' :: value

def Line.data? : Line → Option Text
  | data text => some text
  | _ => none

theorem Line.eq_data {line : Line} {text : Text} (h : line.data? = some text) :
    line = .data text := by
  cases line with
  | data text' => rw [Option.some.inj h]
  | comment text' => cases h
  | field name value => cases h

def encodeLine (line : Line × Ending) : Text := line.1.text ++ line.2.carriage ++ ['\n']

/-- The lines of an event and the blank line that ends it. -/
structure Frame where
  body : List (Line × Ending)
  blank : Ending
  deriving DecidableEq, Repr

namespace Frame

def text (frame : Frame) : Text :=
  frame.body.flatMap encodeLine ++ frame.blank.carriage ++ ['\n']

/-- The data lines are those of the data, and each comment and each other field is one line. -/
structure Encodes (frame : Frame) (data : Text) : Prop where
  data : (frame.body.filterMap fun line => line.1.data?) = data.splitOn '\n'
  ignored : ∀ line ∈ frame.body, line.1.data? = none → '\n' ∉ line.1.text

end Frame

end Encoding

/-! ## One line -/

section Lines

theorem removesuffix_concat (suffix : Char) (text : Text) :
    removesuffix suffix (text ++ [suffix]) = text := by
  rw [removesuffix, if_pos List.getLast?_concat, List.dropLast_concat]

theorem removesuffix_of_not_mem {suffix : Char} {text : Text} (h : suffix ∉ text) :
    removesuffix suffix text = text := by
  have hlast : text.getLast? ≠ some suffix := fun heq => h (List.mem_of_getLast? heq)
  rw [removesuffix, if_neg hlast]

/-- The suffix is taken from what follows another character. -/
theorem removesuffix_append_cons {suffix c : Char} (hc : c ≠ suffix) (head tail : Text) :
    removesuffix suffix (head ++ c :: tail) = head ++ c :: removesuffix suffix tail := by
  rcases List.eq_nil_or_concat tail with rfl | ⟨init, last, rfl⟩
  · have hlast : (head ++ [c]).getLast? ≠ some suffix := by
      simpa using hc
    rw [removesuffix, if_neg hlast]
    rfl
  · have happend : head ++ c :: (init ++ [last]) = (head ++ c :: init) ++ [last] := by simp
    rw [List.concat_eq_append]
    by_cases hsuffix : last = suffix
    · subst hsuffix
      rw [happend, removesuffix_concat, removesuffix_concat]
    · have hne : some last ≠ some suffix := fun heq => hsuffix (Option.some.inj heq)
      have hlast : ((head ++ c :: init) ++ [last]).getLast? ≠ some suffix := by
        rw [List.getLast?_concat]
        exact hne
      have hlast' : (init ++ [last]).getLast? ≠ some suffix := by
        rw [List.getLast?_concat]
        exact hne
      rw [happend, removesuffix, if_neg hlast, removesuffix, if_neg hlast', ← happend]

theorem removesuffix_carriage {text : Text} (h : '\r' ∉ text) (ending : Ending) :
    removesuffix '\r' (text ++ ending.carriage) = text := by
  cases ending with
  | lf =>
    rw [Ending.carriage, List.append_nil]
    exact removesuffix_of_not_mem h
  | crlf => exact removesuffix_concat '\r' text

theorem handleLine_field (data : List Text) {name : Text} (hname : ':' ∉ name) (value : Text) :
    handleLine data (name ++ ':' :: value) =
      (if name = "data".toList then data ++ [ removeprefix ' ' (removesuffix '\r' value)] else data,
        []) := by
  have hne : name ++ ':' :: removesuffix '\r' value ≠ [] := by simp
  rw [handleLine, removesuffix_append_cons (by decide), if_neg hne, partition_append hname]
  dsimp only
  split <;> rfl

theorem handleLine_data {text : Text} (h : '\r' ∉ text) (data : List Text) (ending : Ending) :
    handleLine data ((Line.data text).text ++ ending.carriage) = (data ++ [text], []) := by
  have hline : (Line.data text).text ++ ending.carriage =
      "data".toList ++ ':' :: (' ' :: text ++ ending.carriage) := rfl
  have hvalue : '\r' ∉ ' ' :: text := by
    simp only [List.mem_cons, not_or]
    exact ⟨by decide, h⟩
  rw [hline, handleLine_field data (by decide), if_pos rfl, removesuffix_carriage hvalue]
  rfl

theorem handleLine_bare (data : List Text) (name : IgnoredField) (ending : Ending) :
    handleLine data (name.text ++ ending.carriage) = (data, []) := by
  have hcr : '\r' ∉ name.text := by cases name <;> decide
  have hcolon : ':' ∉ name.text := by cases name <;> decide
  have hne : name.text ≠ [] := by cases name <;> decide
  have hfield : name.text ≠ "data".toList := by cases name <;> decide
  rw [handleLine, removesuffix_carriage hcr, if_neg hne, partition_of_not_mem hcolon]
  exact if_neg hfield

theorem handleLine_ignored {line : Line} (h : line.data? = none) (data : List Text)
    (ending : Ending) : handleLine data (line.text ++ ending.carriage) = (data, []) := by
  cases line with
  | data text => cases h
  | comment text => exact handleLine_field data List.not_mem_nil (text ++ ending.carriage)
  | field name value =>
    cases value with
    | none => exact handleLine_bare data name ending
    | some value =>
      have hline : (Line.field name (some value)).text ++ ending.carriage =
          name.text ++ ':' :: (value ++ ending.carriage) := List.append_assoc _ _ _
      have hcolon : ':' ∉ name.text := by cases name <;> decide
      have hfield : name.text ≠ "data".toList := by cases name <;> decide
      rw [hline, handleLine_field data hcolon, if_neg hfield]

theorem handleLine_blank {data : List Text} (h : data ≠ []) (ending : Ending) :
    handleLine data ending.carriage = ([], [['\n'].intercalate data]) := by
  have hblank : removesuffix '\r' ending.carriage = [] := by cases ending <;> decide
  rw [handleLine, hblank, if_pos rfl, if_pos h]

end Lines

/-! ## Whole events -/

section Events

/-- A piece of a text holds no separator, and nothing that the text does not hold. -/
theorem of_mem_splitOn {sep : Char} {text piece : Text} (h : piece ∈ text.splitOn sep) :
    sep ∉ piece ∧ ∀ c ∈ piece, c ∈ text := by
  induction text generalizing piece with
  | nil =>
    rw [List.splitOn_nil, List.mem_singleton] at h
    simp [h]
  | cons c text ih =>
    obtain ⟨first, others, hsplit⟩ := List.exists_cons_of_ne_nil (List.splitOn_ne_nil sep text)
    rw [List.splitOn_cons_eq_if_modifyHead, hsplit] at h
    rw [hsplit] at ih
    by_cases hc : c = sep
    · subst hc
      rw [if_pos (beq_self_eq_true c)] at h
      rcases List.mem_cons.mp h with rfl | h
      · simp
      · obtain ⟨hsep, hmem⟩ := ih h
        exact ⟨hsep, fun d hd => List.mem_cons_of_mem _ (hmem d hd)⟩
    · rw [if_neg (by simpa using hc), List.modifyHead_cons] at h
      rcases List.mem_cons.mp h with rfl | h
      · obtain ⟨hsep, hmem⟩ := ih List.mem_cons_self
        have hne : sep ≠ c := fun heq => hc heq.symm
        refine ⟨by simp [hne, hsep], fun d hd => ?_⟩
        rcases List.mem_cons.mp hd with rfl | hd
        · exact List.mem_cons_self
        · exact List.mem_cons_of_mem _ (hmem d hd)
      · obtain ⟨hsep, hmem⟩ := ih (List.mem_cons_of_mem _ h)
        exact ⟨hsep, fun d hd => List.mem_cons_of_mem _ (hmem d hd)⟩

/-- What the loop needs of the line of an event: a data line is one line without a CR. -/
structure Readable (line : Line) : Prop where
  newline : '\n' ∉ line.text
  carriage : ∀ text, line.data? = some text → '\r' ∉ text

theorem Frame.Encodes.readable {frame : Frame} {data : Text} (h : frame.Encodes data)
    (hcr : '\r' ∉ data) : ∀ line ∈ frame.body, Readable line.1 := by
  intro line hline
  cases hdata : line.1.data? with
  | none =>
    refine ⟨h.ignored line hline hdata, ?_⟩
    intro text htext
    rw [hdata] at htext
    cases htext
  | some text =>
    have hpiece : text ∈ data.splitOn '\n' := by
      rw [← h.data]
      exact List.mem_filterMap.mpr ⟨line, hline, hdata⟩
    obtain ⟨hnewline, hmem⟩ := of_mem_splitOn hpiece
    refine ⟨?_, ?_⟩
    · rw [Line.eq_data hdata]
      show '\n' ∉ "data: ".toList ++ text
      rw [List.mem_append, not_or]
      exact ⟨by decide, hnewline⟩
    · intro text' htext'
      rw [hdata] at htext'
      rw [← Option.some.inj htext']
      exact fun hmem' => hcr (hmem _ hmem')

theorem drain_encodeLine {line : Line × Ending} (h : Readable line.1) (rest : Text)
    (data : List Text) :
    drain (encodeLine line ++ rest) data = drain rest (data ++ line.1.data?.toList) := by
  have hnewline : '\n' ∉ line.1.text ++ line.2.carriage := by
    rw [List.mem_append, not_or]
    exact ⟨h.newline, by cases line.2 <;> decide⟩
  have hline : handleLine data (line.1.text ++ line.2.carriage) =
      (data ++ line.1.data?.toList, []) := by
    cases hdata : line.1.data? with
    | none => simpa using handleLine_ignored hdata data line.2
    | some text =>
      rw [Line.eq_data hdata]
      exact handleLine_data (h.carriage text hdata) data line.2
  rw [encodeLine, List.append_assoc, List.singleton_append, drain_line hnewline, hline,
    List.nil_append]

theorem drain_body {body : List (Line × Ending)} (h : ∀ line ∈ body, Readable line.1) (rest : Text)
    (data : List Text) :
    drain (body.flatMap encodeLine ++ rest) data =
      drain rest (data ++ body.filterMap fun line => line.1.data?) := by
  induction body generalizing data with
  | nil => simp
  | cons line body ih =>
    rw [List.flatMap_cons, List.append_assoc, drain_encodeLine (h line List.mem_cons_self),
      ih fun l hl => h l (List.mem_cons_of_mem _ hl), List.append_assoc]
    congr 2
    cases hdata : line.1.data? with
    | none => simp [hdata]
    | some text => simp [hdata]

theorem drain_frame {frame : Frame} {data : Text} (h : frame.Encodes data) (hcr : '\r' ∉ data)
    (rest : Text) :
    drain (frame.text ++ rest) [] = ((drain rest []).1, data :: (drain rest []).2) := by
  have hblank : '\n' ∉ frame.blank.carriage := by cases frame.blank <;> decide
  have hdata : data.splitOn '\n' ≠ [] := List.splitOn_ne_nil _ _
  have htext : frame.text ++ rest =
      frame.body.flatMap encodeLine ++ (frame.blank.carriage ++ '\n' :: rest) := by
    simp [Frame.text]
  rw [htext, drain_body (h.readable hcr), List.nil_append, h.data, drain_line hblank,
    handleLine_blank hdata, List.intercalate_splitOn]
  rfl

theorem drain_frames {frames : List Frame} {events : List Text}
    (h : List.Forall₂ Frame.Encodes frames events) (hcr : ∀ data ∈ events, '\r' ∉ data) :
    drain (frames.flatMap Frame.text) [] = (([], []), events) := by
  induction h with
  | nil => exact drain_of_not_mem List.not_mem_nil []
  | cons hframe _ ih =>
    rw [List.flatMap_cons, drain_frame hframe (hcr _ List.mem_cons_self),
      ih fun data hdata => hcr data (List.mem_cons_of_mem _ hdata)]

/-- However the bytes of the encoded events are cut into chunks, a fresh parser gives their data
in order and has nothing left. -/
theorem events_of_encoding {frames : List Frame} {events : List Text}
    (h : List.Forall₂ Frame.Encodes frames events) (hcr : ∀ data ∈ events, '\r' ∉ data)
    {chunks : List (List UInt8)}
    (hchunks : chunks.flatten = (String.ofList (frames.flatMap Frame.text)).toUTF8.data.toList) :
    feedAll (SSEParser.feed utf8Decoder) (SSEParser.init utf8Decoder) chunks =
      (SSEParser.init utf8Decoder, events) := by
  have hbytes : chunks.flatten = (frames.flatMap Frame.text).flatMap String.utf8EncodeChar := by
    simp [hchunks, List.utf8Encode]
  have hdecoded : utf8Decoder.feed (SSEParser.init utf8Decoder).decoder chunks.flatten =
      ([], frames.flatMap Frame.text) := by
    rw [hbytes]
    exact decode_text _
  rw [feed_chunks, SSEParser.feed, hdecoded]
  simp only [SSEParser.init, List.nil_append, drain_frames h hcr]
  rfl

/-- Two events, the second over two lines with a comment and an id between them. -/
theorem events_of_encoding_chunks :
    feedAll (SSEParser.feed utf8Decoder) (SSEParser.init utf8Decoder)
        ["data: caff".toUTF8.data.toList ++ [0xC3],
          0xA8 :: "\n\n: ping\ndata: a: b\r\nid:7\ndata: \n\r\n".toUTF8.data.toList] =
      (SSEParser.init utf8Decoder, ["caffè".toList, "a: b\n".toList]) := by
  have hframes : List.Forall₂ Frame.Encodes
      [⟨[(.data "caffè".toList, .lf)], .lf⟩,
        ⟨[(.comment " ping".toList, .lf), (.data "a: b".toList, .crlf),
          (.field .id (some "7".toList), .lf), (.data [], .lf)], .crlf⟩]
      ["caffè".toList, "a: b\n".toList] := by
    refine .cons ⟨by decide, by decide⟩ (.cons ⟨by decide, by decide⟩ .nil)
  exact events_of_encoding hframes (by decide) (by decide +kernel)

end Events

end Eisenberg.Sse
