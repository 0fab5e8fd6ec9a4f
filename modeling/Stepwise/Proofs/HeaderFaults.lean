import Stepwise.Proofs.Headers

/-!
# What is reported of a bad header

A header that announces more integers than follow is reported at the first word behind the count that is
no integer, or at the end of the text if there is no such word. This is so for every count up to the
capacity for which memory can be set aside. The memory is asked for before any of the words has been
looked at, and so a count beyond the capacity ends the division at once, whatever follows it; and nothing
else does.

## Main results

* `Header.division_of_few`: a header with too few integers behind its count.
* `Header.division_of_huge_iff`: when a count is beyond the capacity.
* `Header.bad_headers_are_reported`: what is reported of all raw inputs, and what sessions on them come to.
-/

namespace Stepwise.Header

open Text (isBlankText)

/-! ## Section 1: The integers in front -/

/-- Whether a word is read as an integer. -/
def Word.isInteger (word : Word) : Bool :=
  (Text.int32? word.chars).isSome

/-- Words that are all read as integers are read as some list of them. -/
theorem exists_reads {words : List Word} (h : ∀ word ∈ words, word.isInteger = true) :
    ∃ values, Reads words values := by
  induction words with
  | nil => exact ⟨[], rfl⟩
  | cons word words ih =>
    obtain ⟨hword, hwords⟩ := List.forall_mem_cons.mp h
    obtain ⟨value, hvalue⟩ := Option.isSome_iff_exists.mp hword
    obtain ⟨values, hvalues⟩ := ih hwords
    exact ⟨value :: values, List.cons_eq_cons.mpr ⟨hvalue, hvalues⟩⟩

/-- The first word behind the integers in front is none. -/
theorem int32?_of_mem_head? {words : List Word} {word : Word}
    (h : word ∈ (words.dropWhile Word.isInteger).head?) : Text.int32? word.chars = none := by
  have hhead := List.head?_dropWhile_not Word.isInteger words
  rw [Option.mem_def.mp h] at hhead
  simpa [Word.isInteger] using hhead

/-- What is reported of a header with this first word, whose count is greater than the number of integers
in front of the other words: the number of the first integer that is missing, the word that stands in its
place, and the line of the last word that was read. -/
def missingInput (first : Word) (rest : List Word) : HeaderFault :=
  let inputs := rest.takeWhile Word.isInteger
  let others := rest.dropWhile Word.isInteger
  .badInput (inputs.length + 1) (found others) (lineOf (first :: (inputs ++ others.take 1)))

/-! ## Section 2: Up to the capacity and beyond it -/

variable {first : Word} {rest words : List Word} {last : List Char} {count : Nat}

/-- Too few integers behind a count within the capacity are reported. -/
theorem division_of_few (hcount : Text.natural? countBound first.chars = some count)
    (hcapacity : count < capacityBound) (hfew : (rest.takeWhile Word.isInteger).length < count) :
    Division (first :: rest) last (.error (missingInput first rest)) := by
  have hintegers : ∀ word ∈ rest.takeWhile Word.isInteger, word.isInteger = true :=
    fun word hword => List.mem_takeWhile_imp hword
  obtain ⟨values, hvalues⟩ := exists_reads hintegers
  -- Behind the count stand the integers in front, and then what is none or nothing at all.
  have hwords : first :: rest =
      first :: (rest.takeWhile Word.isInteger ++ rest.dropWhile Word.isInteger) := by
    rw [List.takeWhile_append_dropWhile]
  apply Division.badInput hwords hcount hcapacity hvalues hfew
  intro word hword
  exact int32?_of_mem_head? hword

/-- A count is said to be too great exactly if it is one beyond the capacity. -/
theorem division_of_huge_iff :
    Division words last (.error (.hugeCount count)) ↔
      ∃ first rest, words = first :: rest ∧
        Text.natural? countBound first.chars = some count ∧ capacityBound ≤ count := by
  constructor
  · intro h
    cases h with
    | hugeCount hwords hcount hhuge => exact ⟨_, _, hwords, hcount, hhuge⟩
  · rintro ⟨first, rest, hwords, hcount, hhuge⟩
    exact .hugeCount hwords hcount hhuge

/-! ## Section 3: Reports -/

/-- A session whose raw input cannot be divided does nothing but report the fault. -/
theorem executeInput_of_split_error {raw : String} {fault : HeaderFault}
    (h : split raw = .error fault) (limits : Limits) (logged : Bool) :
    Session.executeInput raw limits logged = { failure := some (.header fault) } := by
  rw [Session.executeInput, h]

/-- Bad headers are reported up to the capacity. Every text is words and blanks. If its first word is a
count within the capacity, and fewer integers than that follow, then the first one that is missing is
reported, by the division as well as by a session. A count beyond the capacity is never followed by a
report of that kind; the division ends at it, whatever follows, and at nothing else in that way. -/
theorem bad_headers_are_reported (text : String) :
    (∃ words last, Apart words ∧ isBlankText last = true ∧
      text = String.ofList (written words ++ last)) ∧
    ∀ words last, Apart words → isBlankText last = true →
      text = String.ofList (written words ++ last) →
      (∀ first rest count, words = first :: rest →
        Text.natural? countBound first.chars = some count → count < capacityBound →
        (rest.takeWhile Word.isInteger).length < count →
          split text = .error (missingInput first rest) ∧
          ∀ limits logged, Session.executeInput text limits logged =
            { failure := some (.header (missingInput first rest)) }) ∧
      ∀ count, split text = .error (.hugeCount count) ↔
        ∃ first rest, words = first :: rest ∧
          Text.natural? countBound first.chars = some count ∧ capacityBound ≤ count := by
  refine ⟨?_, ?_⟩
  · obtain ⟨words, last, hapart, hlast, htext⟩ := exists_words text.toList
    refine ⟨words, last, hapart, hlast, ?_⟩
    rw [← htext, String.ofList_toList]
  · rintro words last hapart hlast rfl
    refine ⟨?_, ?_⟩
    · intro first rest count hwords hcount hcapacity hfew
      subst hwords
      have hsplit := (split_eq_iff hapart hlast).mpr (division_of_few hcount hcapacity hfew)
      exact ⟨hsplit, executeInput_of_split_error hsplit⟩
    · intro count
      rw [split_eq_iff hapart hlast]
      exact division_of_huge_iff

/-- The words of a header for three integers, of which the second is none. -/
def brokenHeader : List Word :=
  [⟨[' '], ['3']⟩, ⟨['\n'], ['1']⟩, ⟨['\n', '\n'], ['x']⟩, ⟨[' '], ['2']⟩]

/-- The least count beyond the capacity, with nothing behind it. -/
def hugeHeader : List Word :=
  [⟨[], "2305843009213693952".toList⟩]

/-- The second integer is reported on its line, and the third one, which is there, does not matter. The
huge count is a word like any other, and it ends the division. -/
theorem bad_headers_are_reported_brokenHeader :
    split (String.ofList (written brokenHeader ++ ['\n'])) = .error (.badInput 2 (some "x") 4) ∧
      split (String.ofList (written hugeHeader ++ [])) = .error (.hugeCount capacityBound) := by
  have hbroken : Apart brokenHeader := by decide
  have hhuge : Apart hugeHeader := by decide
  refine ⟨?_, ?_⟩
  · have hreport := ((bad_headers_are_reported _).2 brokenHeader ['\n'] hbroken (by decide) rfl).1
    exact (hreport _ _ 3 rfl (by decide) (by decide) (by decide)).1
  · apply (((bad_headers_are_reported _).2 hugeHeader [] hhuge (by decide) rfl).2 _).mpr
    exact ⟨_, _, rfl, by decide, by decide⟩

/-- So not every header with too few integers behind its count is reported. -/
theorem huge_counts_not_reported :
    ¬ ∀ words last first rest count, Apart words → isBlankText last = true → words = first :: rest →
      Text.natural? countBound first.chars = some count →
      (rest.takeWhile Word.isInteger).length < count →
        ∃ index found line,
          split (String.ofList (written words ++ last)) = .error (.badInput index found line) := by
  intro hreported
  -- The one word is a count, and no integer stands behind it.
  have hapart : Apart hugeHeader := by decide
  have hblank : isBlankText [] = true := rfl
  have hcount : Text.natural? countBound "2305843009213693952".toList = some capacityBound := by decide
  obtain ⟨index, found, line, hreport⟩ :=
    hreported hugeHeader [] _ _ capacityBound hapart hblank rfl hcount (by decide)
  have hhuge : split (String.ofList (written hugeHeader ++ [])) = .error (.hugeCount capacityBound) := by
    apply (split_eq_iff hapart hblank).mpr
    exact .hugeCount rfl hcount (by decide)
  rw [hhuge] at hreport
  cases hreport

end Stepwise.Header
