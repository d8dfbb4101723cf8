import Concord.Config.File
import Concord.Proofs.DocumentText

/-!
# Documents read from their files

A written document is ASCII, and its lines end with line feeds alone: a carriage return in a string
is escaped, and digits, signs, words and space are none. So nothing changes when the lines of the
file are unified, and the file holds the document that was written.

The main statement is `Config.documentOfBytes_renderIndented`.
-/

namespace Concord

namespace Document

/-- Digits hold no carriage return. -/
theorem return_not_mem_digits {digits : List Char} (h : ∀ c ∈ digits, c.isDigit = true) :
    '\r' ∉ digits := fun hmem => ne_of_isDigit (h _ hmem) rfl rfl

/-- The significant digits of a numeral are digits. -/
theorem isDigit_significant (numeral : Numeral) :
    ∀ c ∈ numeral.significant.1, c.isDigit = true := by
  intro c hc
  have hfront := List.rdropWhile_prefix (· == '0') (l := Nat.toDigits 10 numeral.digits)
  exact isDigit_toDigits _ c (hfront.subset hc)

/-- The text of a numeral holds no carriage return. -/
theorem return_not_mem_text (numeral : Numeral) : '\r' ∉ numeral.text.toList := by
  have hdigits := isDigit_significant numeral
  simp only [Numeral.text]
  generalize numeral.significant.1 = digits at hdigits
  generalize numeral.significant.2 = point
  have htake (count : Nat) : '\r' ∉ digits.take count :=
    fun hmem => return_not_mem_digits hdigits (List.mem_of_mem_take hmem)
  have hdrop (count : Nat) : '\r' ∉ digits.drop count :=
    fun hmem => return_not_mem_digits hdigits (List.mem_of_mem_drop hmem)
  have hzeros (count : Nat) : '\r' ∉ List.replicate count '0' :=
    return_not_mem_digits (isDigit_zeros count)
  split
  · unfold Numeral.positional
    split
    · simp [return_not_mem_digits hdigits]
    · rw [String.toList_ofList]
      split <;> simp [htake, hdrop, hzeros]
  · have hpower := return_not_mem_digits (zeroPadded_spec 2 (point - 1).natAbs).2.1
    simp only [Numeral.scientific, String.toList_append, String.toList_ofList, List.mem_append,
      not_or]
    refine ⟨⟨⟨htake 1, ?_⟩, ?_⟩, hpower⟩
    · split
      · exact List.not_mem_nil
      · exact fun hmem => (List.mem_cons.1 hmem).elim (by decide) (hdrop 1)
    · split <;> decide

/-- A written real number holds no carriage return. -/
theorem return_not_mem_writeReal (x : Binary64) : '\r' ∉ writeReal x := by
  cases x with
  | nan => decide
  | infinite negative => cases negative <;> decide
  | finite negative m =>
    rw [writeReal_finite, List.mem_append, not_or]
    refine ⟨by cases negative <;> decide, ?_⟩
    split
    · decide
    · exact return_not_mem_text _

/-- Hexadecimal digits hold no carriage return. -/
theorem return_not_mem_hexDigits (width n : Nat) : '\r' ∉ Text.hexDigits width n := by
  have hdigits : '\r' ∉ Nat.toDigits 16 n := by
    induction n using Nat.base_induction 16 (by decide) with
    | single m hm =>
      rw [Nat.toDigits_of_lt_base hm, List.mem_singleton]
      exact (Nat.digitChar_ne '\r' rfl).symm
    | digit m k hk hm ih =>
      rw [← Nat.toDigits_append_toDigits (by decide) hm hk, List.mem_append, not_or,
        Nat.toDigits_of_lt_base hk, List.mem_singleton]
      exact ⟨ih, (Nat.digitChar_ne '\r' rfl).symm⟩
  rw [Text.hexDigits, List.mem_append, not_or]
  exact ⟨return_not_mem_digits (isDigit_zeros _), hdigits⟩

/-- An escaped code unit holds no carriage return. -/
theorem return_not_mem_unitEscape (n : Nat) : '\r' ∉ unitEscape n := by
  simp [unitEscape, return_not_mem_hexDigits]

/-- A written character holds no carriage return. -/
theorem return_not_mem_writeChar (c : Char) : '\r' ∉ writeChar c := by
  by_cases hc : c = '\r'
  · rw [hc]
    decide
  · unfold writeChar
    repeat' split
    all_goals simp [return_not_mem_unitEscape, Ne.symm hc]

/-- A written string holds no carriage return. -/
theorem return_not_mem_writeString (s : String) : '\r' ∉ writeString s := by
  simp [writeString, return_not_mem_writeChar]

/-- A line that begins holds no carriage return. -/
theorem return_not_mem_newLine (depth : Nat) : '\r' ∉ newLine depth := by simp [newLine]

mutual

/-- A written document holds no carriage return. -/
theorem return_not_mem_write (depth : Nat) (d : Document) :
    '\r' ∉ write .indented depth d := by
  cases d with
  | null =>
    rw [write]
    decide
  | bool value => cases value <;> (rw [write]; decide)
  | int z =>
    rw [write, toString_toList, List.mem_append, not_or]
    exact ⟨by cases decide (z < 0) <;> decide, return_not_mem_digits (isDigit_toDigits _)⟩
  | real x =>
    rw [write]
    exact return_not_mem_writeReal x
  | text s =>
    rw [write]
    exact return_not_mem_writeString s
  | list items =>
    cases items with
    | nil =>
      rw [write]
      decide
    | cons item items =>
      simp [write, indented_spec, return_not_mem_newLine, return_not_mem_write (depth + 1) item,
        return_not_mem_writeItems depth items]
  | object members =>
    cases members with
    | nil =>
      rw [write]
      decide
    | cons member members =>
      simp [write, indented_spec, return_not_mem_newLine, return_not_mem_writeString,
        return_not_mem_write (depth + 1) member.2, return_not_mem_writeMembers depth members]

/-- The written items of a list hold no carriage return. -/
theorem return_not_mem_writeItems (depth : Nat) (items : List Document) :
    '\r' ∉ writeItems .indented depth items := by
  cases items with
  | nil => exact List.not_mem_nil
  | cons item items =>
    simp [writeItems, indented_spec, return_not_mem_newLine,
      return_not_mem_write (depth + 1) item, return_not_mem_writeItems depth items]

/-- The written members of an object hold no carriage return. -/
theorem return_not_mem_writeMembers (depth : Nat) (members : List (String × Document)) :
    '\r' ∉ writeMembers .indented depth members := by
  cases members with
  | nil => exact List.not_mem_nil
  | cons member members =>
    simp [writeMembers, indented_spec, return_not_mem_newLine, return_not_mem_writeString,
      return_not_mem_write (depth + 1) member.2, return_not_mem_writeMembers depth members]

end

end Document

/-- A text without a carriage return has its lines as they are. -/
theorem unifyLineEnds_of_not_mem {chars : List Char} (h : '\r' ∉ chars) :
    unifyLineEnds chars = chars := by
  induction chars with
  | nil => rfl
  | cons c chars ih =>
    rw [List.mem_cons, not_or] at h
    rw [unifyLineEnds, ih h.2]
    · exact fun _ hc => absurd hc.symm h.1
    · exact fun hc => absurd hc.symm h.1

/-- A path that can be followed leads to the place that it names. -/
theorem Disk.walk_eq_followAll {d : Disk} {place found : Place} {parts : List String}
    (h : d.walk place parts = .ok found) : found = place.followAll parts := by
  induction parts generalizing place with
  | nil =>
    cases h
    rfl
  | cons part parts ih =>
    unfold walk at h
    split at h
    · cases h
    · cases h
    · split at h
      · cases h
      · exact ih h

/-- A file that stands at a place is found there. -/
theorem Disk.find_of_entry {d : Disk} {place : Place} {content : ByteArray}
    (h : d.entry? place = some (.file content)) : d.find? place = some content := by
  unfold entry? at h
  split at h
  · rename_i bytes hfind
    cases h
    exact hfind
  · split at h <;> cases h

/-- What is read from a path is the file at the place that the path names. -/
theorem Disk.find_of_read {d : Disk} {path : String} {content : ByteArray}
    (h : d.read path = .ok content) : d.find? (d.placeOf path) = some content := by
  by_cases hempty : path = ""
  · simp [read, hempty, bind, Except.bind, throw, throwThe, MonadExceptOf.throw] at h
  by_cases hlong : pathLimit ≤ path.utf8ByteSize
  · simp [read, hempty, hlong, bind, Except.bind, throw, throwThe, MonadExceptOf.throw] at h
  simp only [read, hempty, hlong, if_false] at h
  obtain ⟨place, hwalk, hentry⟩ := bind_eq_ok.1 h
  obtain rfl := walk_eq_followAll hwalk
  split at hentry
  · cases hentry
  · cases hentry
  · rename_i bytes hfile
    cases hentry
    exact find_of_entry hfile

/-- What is read from the path that a file was put at is the content of the file. -/
theorem Disk.contentAt_put {d : Disk} {path : String} {content found : ByteArray}
    (h : (d.put path content).contentAt path = .ok found) : found = content := by
  unfold contentAt at h
  cases hread : (d.put path content).read path with
  | error fault =>
    rw [hread] at h
    cases h
  | ok bytes =>
    rw [hread] at h
    cases h
    exact Option.some.inj ((find_of_read hread).symm.trans (find_put d path content))

/-- A file with the indented text of a document holds the document. -/
theorem Config.documentOfBytes_renderIndented (path : String) {d : Document}
    (hfaithful : d.Everywhere Document.Faithful) (hdepth : d.depth ≤ Document.maxNesting) :
    documentOfBytes path d.renderIndented.toUTF8 = .ok d := by
  have hdecode : String.fromUTF8? d.renderIndented.toUTF8 = some d.renderIndented :=
    dif_pos d.renderIndented.isValidUTF8
  have hlines : String.ofList (unifyLineEnds d.renderIndented.toList) = d.renderIndented := by
    rw [Document.renderIndented, String.toList_ofList,
      unifyLineEnds_of_not_mem (Document.return_not_mem_write 0 d)]
  simp only [documentOfBytes, hdecode, hlines, Document.read_renderIndented hfaithful hdepth]

end Concord
