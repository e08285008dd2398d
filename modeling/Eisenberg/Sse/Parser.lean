import Eisenberg.Framework.Incremental
import Eisenberg.Framework.Separator

/-!
# The event-stream parser

`SSEParser` takes the chunks of a `text/event-stream` response. It keeps the bytes of an unfinished
character, the text of an unfinished line and the data lines of an unfinished event.
-/

namespace Eisenberg.Sse

open Framework

/-- A Python string by its characters. -/
abbrev Text := List Char

/-- `text.partition(sep)` for one character; the middle part is empty when it does not occur. -/
def partition (sep : Char) (text : Text) : Text × Text × Text :=
  (text.takeWhile (· ≠ sep), (text.dropWhile (· ≠ sep)).take 1, (text.dropWhile (· ≠ sep)).drop 1)

def removesuffix (suffix : Char) (text : Text) : Text :=
  if text.getLast? = some suffix then text.dropLast else text

def removeprefix (pre : Char) (text : Text) : Text :=
  if text.head? = some pre then text.tail else text

section Partition

variable {sep : Char}

theorem partition_of_not_mem {text : Text} (h : sep ∉ text) :
    partition sep text = (text, [], []) := by
  rw [partition, takeWhile_of_sep_not_mem h, dropWhile_of_sep_not_mem h]
  rfl

theorem partition_append {head : Text} (h : sep ∉ head) (tail : Text) :
    partition sep (head ++ sep :: tail) = (head, [sep], tail) := by
  rw [partition, takeWhile_append_sep, takeWhile_of_sep_not_mem h, dropWhile_append_sep h]
  rfl

theorem partition_rest_length {text : Text} (h : (partition sep text).2.1 ≠ []) :
    (partition sep text).2.2.length < text.length := by
  have hne : text.dropWhile (· ≠ sep) ≠ [] := by
    intro hnil
    exact h (by simp only [partition, hnil, List.take_nil])
  have hpos : 0 < (text.dropWhile (· ≠ sep)).length := List.length_pos_iff.mpr hne
  have hle : (text.dropWhile (· ≠ sep)).length ≤ text.length :=
    (List.dropWhile_suffix _).length_le
  simp only [partition, List.length_drop]
  omega

end Partition

/-- The body of the loop for one complete line: the new pending data, and the event that it
completes. -/
def handleLine (data : List Text) (line : Text) : List Text × List Text :=
  let line := removesuffix '\r' line
  if line = [] then
    if data ≠ [] then ([], [['\n'].intercalate data]) else (data, [])
  else
    let (field, _, value) := partition ':' line
    if field = "data".toList then (data ++ [ removeprefix ' ' value], []) else (data, [])

/-- The `while True` loop over the complete lines of the buffer. -/
def drain (buffer : Text) (data : List Text) : (Text × List Text) × List Text :=
  if (partition '\n' buffer).2.1 = [] then ((buffer, data), [])
  else
    let line := (partition '\n' buffer).1
    let rest := (partition '\n' buffer).2.2
    let tail := drain rest (handleLine data line).1
    (tail.1, (handleLine data line).2 ++ tail.2)
termination_by buffer.length
decreasing_by exact partition_rest_length ‹_›

variable {σ : Type}

structure SSEParser (σ : Type) where
  decoder : σ
  buffer : Text
  data : List Text

namespace SSEParser

variable (codec : Incremental σ UInt8 Char)

def init : SSEParser σ := ⟨codec.start, [], []⟩

def feed (parser : SSEParser σ) (chunk : List UInt8) : SSEParser σ × List Text :=
  let (decoder, text) := codec.feed parser.decoder chunk
  let ((buffer, data), events) := drain (parser.buffer ++ text) parser.data
  (⟨decoder, buffer, data⟩, events)

end SSEParser

/-! ## The decoder -/

section Utf8

/-- The least and the greatest byte that continue an unfinished character. -/
def tailRange (pending : List UInt8) : UInt8 × UInt8 :=
  if pending = [0xE0] then (0xA0, 0xBF)
  else if pending = [0xED] then (0x80, 0x9F)
  else if pending = [0xF0] then (0x90, 0xBF)
  else if pending = [0xF4] then (0x80, 0x8F)
  else (0x80, 0xBF)

/-- The bytes of a character with this first byte. -/
def width (lead : UInt8) : Nat := if lead < 0xE0 then 2 else if lead < 0xF0 then 3 else 4

def codePoint (lead : UInt8) (tail : List UInt8) : Nat :=
  tail.foldl (fun n b => n * 64 + (b.toNat - 0x80)) (lead.toNat &&& 0x7F >>> width lead)

def replacement : Char := Char.ofNat 0xFFFD

def takeLead (b : UInt8) : List UInt8 × List Char :=
  if b < 0x80 then ([], [Char.ofNat b.toNat])
  else if 0xC2 ≤ b ∧ b ≤ 0xF4 then ([b], [])
  else ([], [replacement])

/-- One byte of the incremental decoder with `errors="replace"`: a byte that cannot continue the
unfinished character replaces it and is looked at again as a first byte. -/
def takeByte (pending : List UInt8) (b : UInt8) : List UInt8 × List Char :=
  match pending with
  | [] => takeLead b
  | lead :: tail =>
    if (tailRange (lead :: tail)).1 ≤ b ∧ b ≤ (tailRange (lead :: tail)).2 then
      if tail.length + 2 = width lead then ([], [Char.ofNat (codePoint lead (tail ++ [b]))])
      else (lead :: tail ++ [b], [])
    else ((takeLead b).1, replacement :: (takeLead b).2)

/-- `codecs.getincrementaldecoder("utf-8")(errors="replace")` -/
def utf8Decoder : Incremental (List UInt8) UInt8 Char := Incremental.ofStep [] takeByte

example : utf8Decoder.feed [] [0x63, 0xC3, 0xA8, 0xE0, 0x80, 0xFF, 0xE2, 0x82, 0xAC, 0xF0, 0x9F] =
    ([0xF0, 0x9F], ['c', 'è', replacement, replacement, replacement, '€']) := by decide +kernel

end Utf8

/-! ## The loop as a machine over characters -/

section Characters

/-- One character of the text: a newline ends the line, every other one extends it. -/
def takeChar (pending : Text × List Text) (c : Char) : (Text × List Text) × List Text :=
  if c = '\n' then (([], (handleLine pending.2 pending.1).1), (handleLine pending.2 pending.1).2)
  else ((pending.1 ++ [c], pending.2), [])

def lineReader : Incremental (Text × List Text) Char Text := Incremental.ofStep ([], []) takeChar

theorem drain_of_not_mem {buffer : Text} (h : '\n' ∉ buffer) (data : List Text) :
    drain buffer data = ((buffer, data), []) := by
  rw [drain, partition_of_not_mem h, if_pos rfl]

theorem drain_line {line : Text} (h : '\n' ∉ line) (rest : Text) (data : List Text) :
    drain (line ++ '\n' :: rest) data =
      ((drain rest (handleLine data line).1).1,
        (handleLine data line).2 ++ (drain rest (handleLine data line).1).2) := by
  rw [drain, partition_append h, if_neg (List.cons_ne_nil _ _)]

/-- The loop over a buffer reads the part after the pending line character by character. -/
theorem drain_append {buffer : Text} (h : '\n' ∉ buffer) (data : List Text) (text : Text) :
    drain (buffer ++ text) data = lineReader.feed (buffer, data) text := by
  induction text generalizing buffer data with
  | nil => rw [List.append_nil, drain_of_not_mem h, lineReader.feed_nil]
  | cons c text ih =>
    change _ = feedAll takeChar (buffer, data) (c :: text)
    rw [feedAll_cons]
    by_cases hc : c = '\n'
    · subst hc
      have hrest : drain text (handleLine data buffer).1 =
          feedAll takeChar ([], (handleLine data buffer).1) text :=
        @ih [] List.not_mem_nil _
      rw [drain_line h, hrest, takeChar, if_pos rfl]
    · have hbuffer : '\n' ∉ buffer ++ [c] := by
        simp only [List.mem_append, List.mem_singleton, not_or]
        exact ⟨h, fun heq => hc heq.symm⟩
      have hrest := ih hbuffer data
      rw [List.append_assoc, List.singleton_append] at hrest
      rw [hrest, takeChar, if_neg hc, List.nil_append]
      rfl

example : drain "data: a\r\ndata:b\n\r\n: ping".toList [] =
    ((": ping".toList, []), ["a\nb".toList]) :=
  (drain_append List.not_mem_nil [] _).trans (by decide)

/-- A line in the reader never holds a newline. -/
theorem newline_not_mem_feed {pending : Text × List Text} (h : '\n' ∉ pending.1) (text : Text) :
    '\n' ∉ (lineReader.feed pending text).1.1 := by
  induction text generalizing pending with
  | nil => exact h
  | cons c text ih =>
    change '\n' ∉ (feedAll takeChar pending (c :: text)).1.1
    rw [feedAll_cons]
    refine ih ?_
    unfold takeChar
    split
    · exact List.not_mem_nil
    · rename_i hc
      simp only [List.mem_append, List.mem_singleton, not_or]
      exact ⟨h, fun heq => hc heq.symm⟩

end Characters

/-! ## Chunks -/

section Chunks

variable (codec : Incremental σ UInt8 Char)

/-- A parser between two chunks against the decoder and the line reader one behind the other. -/
structure Pending (parser : SSEParser σ) (machine : σ × (Text × List Text)) : Prop where
  line : '\n' ∉ parser.buffer
  same : machine = (parser.decoder, (parser.buffer, parser.data))

theorem Pending.init : Pending (SSEParser.init codec) (codec.pipe lineReader).start :=
  ⟨List.not_mem_nil, rfl⟩

/-- A chunk does to the parser what it does to the two machines. -/
theorem Pending.feed {parser : SSEParser σ} {machine : σ × (Text × List Text)}
    (chunk : List UInt8) (h : Pending parser machine) :
    Pending (SSEParser.feed codec parser chunk).1 ((codec.pipe lineReader).feed machine chunk).1 ∧
      (SSEParser.feed codec parser chunk).2 = ((codec.pipe lineReader).feed machine chunk).2 := by
  obtain ⟨hline, rfl⟩ := h
  have hdrain := drain_append hline parser.data (codec.feed parser.decoder chunk).2
  refine ⟨⟨?_, ?_⟩, ?_⟩
  · simp only [SSEParser.feed, hdrain]
    exact newline_not_mem_feed hline _
  · simp only [SSEParser.feed, hdrain, Incremental.pipe]
  · simp only [SSEParser.feed, hdrain, Incremental.pipe]

theorem Pending.eq {parser parser' : SSEParser σ} {machine : σ × (Text × List Text)}
    (h : Pending parser machine) (h' : Pending parser' machine) : parser = parser' := by
  obtain ⟨-, rfl⟩ := h
  obtain ⟨-, heq⟩ := h'
  cases parser
  cases parser'
  simp only [Prod.mk.injEq] at heq
  obtain ⟨rfl, rfl, rfl⟩ := heq
  rfl

/-- Where a response is cut into chunks changes neither the events nor what stays pending. -/
theorem feed_chunks (chunks : List (List UInt8)) :
    feedAll (SSEParser.feed codec) (SSEParser.init codec) chunks =
      SSEParser.feed codec (SSEParser.init codec) chunks.flatten := by
  obtain ⟨hpieces, hevents⟩ :=
    feedAll_related (Pending.feed codec) (Pending.init codec) chunks
  obtain ⟨hwhole, hall⟩ := (Pending.init codec).feed codec chunks.flatten
  rw [(codec.pipe lineReader).feedAll_eq_feed_flatten] at hpieces hevents
  exact Prod.ext (hpieces.eq hwhole) (hevents.trans hall.symm)

end Chunks

end Eisenberg.Sse
