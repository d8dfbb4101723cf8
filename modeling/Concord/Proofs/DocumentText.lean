import Concord.Proofs.ReadableDocument
import Concord.Proofs.StringText

/-!
# Documents read from their indented texts

A written value ends where nothing, a comma or the end of a line follows, and begins with no space,
so space is skipped up to it. An indented document sets every part on a line of its own, and reading
takes the parts one after the other. A part is shorter than the whole by two characters at least, so
twice the length of the text bounds the steps.

The main statement is `Document.readValue_write`: a value is read from its written form.
-/

namespace Concord.Document

/-- A document whose text says all of it: it can be read, and its number is a number. -/
def Faithful (d : Document) : Prop := Readable d ∧ Defined d

/-! ## The beginning of a value -/

/-- A character that a value begins with: no space, no closing bracket, and no mark of the byte
order. -/
def Begins (c : Char) : Prop :=
  isSpace c = false ∧ c ≠ ']' ∧ c ≠ '}' ∧ c ≠ '\ufeff'

instance (c : Char) : Decidable (Begins c) := inferInstanceAs (Decidable (_ ∧ _))

/-- A digit begins a value. -/
theorem begins_of_isDigit {c : Char} (h : c.isDigit = true) : Begins c := by
  refine ⟨?_, ne_of_isDigit h rfl, ne_of_isDigit h rfl, ne_of_isDigit h rfl⟩
  simp only [isSpace, Bool.or_eq_false_iff, decide_eq_false_iff_not]
  exact ⟨⟨⟨ne_of_isDigit h rfl, ne_of_isDigit h rfl⟩, ne_of_isDigit h rfl⟩, ne_of_isDigit h rfl⟩

/-- A whole part begins with a digit. -/
theorem exists_digit_of_readWhole {input : List Char} {r : List Char × List Char}
    (h : readWhole input = some r) : ∃ c tail, input = c :: tail ∧ c.isDigit = true := by
  unfold readWhole at h
  split at h
  · exact ⟨_, _, rfl, rfl⟩
  · rename_i c tail _
    by_cases hc : c.isDigit = true
    · exact ⟨c, tail, rfl, hc⟩
    · rw [if_neg hc] at h
      cases h
  · cases h

/-- A number begins with a digit behind its sign. -/
theorem exists_digit_of_readNumber {input : List Char} {r : Document × List Char}
    (h : readNumber input = .ok r) :
    ∃ negative c tail, input = sign negative ++ c :: tail ∧ c.isDigit = true := by
  unfold readNumber at h
  split at h
  rename_i negative unsigned heq
  split at h
  · cases h
  · rename_i hwhole
    obtain ⟨c, tail, rfl, hc⟩ := exists_digit_of_readWhole hwhole
    split at heq
    · obtain ⟨rfl, rfl⟩ := Prod.mk.inj heq
      exact ⟨true, c, tail, rfl, hc⟩
    · obtain ⟨rfl, rfl⟩ := Prod.mk.inj heq
      exact ⟨false, c, tail, rfl, hc⟩

/-- A number is no fixed word. -/
theorem readWord_number (negative : Bool) {c : Char} (tail : List Char) (h : c.isDigit = true) :
    readWord (sign negative ++ c :: tail) = none := by
  unfold readWord
  cases negative with
  | true =>
    split <;> rename_i heq <;> try cases heq
    · exact absurd h (by decide)
    · rfl
  | false =>
    split <;> rename_i heq
    any_goals exact absurd (List.cons.inj heq).1 (ne_of_isDigit h rfl)
    rfl

/-- A value that begins with a digit behind a sign is a number. -/
theorem readValue_number {bound nesting : Nat} {input : List Char} {r : Document × List Char}
    (h : readNumber input = .ok r) : readValue (bound + 1) nesting input = .ok r := by
  obtain ⟨negative, c, tail, rfl, hc⟩ := exists_digit_of_readNumber h
  have hne {d : Char} (hd : d.isDigit = false) (hd' : d ≠ '-') (rest : List Char) :
      sign negative ++ c :: tail ≠ d :: rest := by
    intro heq
    cases negative with
    | true => exact hd' (List.cons.inj heq).1.symm
    | false => exact ne_of_isDigit hc hd (List.cons.inj heq).1
  rw [readValue, readWord_number negative tail hc]
  · exact h
  · exact hne rfl (by decide)
  · exact hne rfl (by decide)
  · exact hne rfl (by decide)

/-- A sign or a digit begins a value. -/
theorem begins_signed (negative : Bool) {digits : List Char} (hne : digits ≠ [])
    (h : ∀ c ∈ digits.head?, c.isDigit = true) :
    ∃ c tail, sign negative ++ digits = c :: tail ∧ Begins c := by
  cases digits with
  | nil => exact absurd rfl hne
  | cons c digits =>
    cases negative with
    | true => exact ⟨'-', c :: digits, rfl, by decide⟩
    | false => exact ⟨c, digits, rfl, begins_of_isDigit (h c rfl)⟩

/-- A written number begins with a character that begins values. -/
theorem begins_of_readNumber {written : List Char} {r : Document × List Char}
    (h : readNumber written = .ok r) : ∃ c tail, written = c :: tail ∧ Begins c := by
  obtain ⟨negative, c, tail, rfl, hc⟩ := exists_digit_of_readNumber h
  refine begins_signed negative (List.cons_ne_nil c tail) fun d hd => ?_
  obtain rfl := Option.some.inj hd
  exact hc

/-! ## The parts of a value -/

variable {rest : List Char}

/-- Space in front of a character that is none is skipped. -/
theorem skipSpace_cons {c : Char} (h : isSpace c = false) (rest : List Char) :
    skipSpace (c :: rest) = c :: rest := by
  simp [skipSpace, h]

/-- The beginning of a line is skipped. -/
theorem skipSpace_newLine (depth : Nat) (rest : List Char) :
    skipSpace (newLine depth ++ rest) = skipSpace rest := by
  have hspaces (count : Nat) : skipSpace (List.replicate count ' ' ++ rest) = skipSpace rest := by
    induction count with
    | zero => rfl
    | succ count ih => exact ih
  exact hspaces (2 * depth)

/-- What stands behind a value inside a list or an object, and at its end. -/
theorem atBreak_newLine (depth : Nat) (rest : List Char) : AtBreak (newLine depth ++ rest) :=
  .line _

/-- A written value begins with a character that begins values. -/
theorem begins_write (layout : Layout) (depth : Nat) (d : Document) :
    ∃ c tail, write layout depth d = c :: tail ∧ Begins c := by
  cases d with
  | null => exact ⟨_, _, by rw [write]; rfl, by decide⟩
  | bool value => cases value <;> exact ⟨_, _, by rw [write]; rfl, by decide⟩
  | int z =>
    rw [write, toString_toList]
    refine begins_signed _ Nat.toDigits_ne_nil fun c hc => ?_
    exact isDigit_toDigits _ c (List.mem_of_mem_head? hc)
  | real x =>
    rw [write]
    cases x with
    | nan => exact ⟨_, _, rfl, by decide⟩
    | infinite negative => cases negative <;> exact ⟨_, _, rfl, by decide⟩
    | finite negative m =>
      have hread := readNumber_writeReal negative m .done
      rw [List.append_nil] at hread
      exact begins_of_readNumber hread
  | text s => exact ⟨_, _, by rw [write]; rfl, by decide⟩
  | list items =>
    cases items with
    | nil => exact ⟨_, _, by rw [write], by decide⟩
    | cons item items => exact ⟨_, _, by rw [write]; rfl, by decide⟩
  | object members =>
    cases members with
    | nil => exact ⟨_, _, by rw [write], by decide⟩
    | cons member members => exact ⟨_, _, by rw [write]; rfl, by decide⟩

/-! ## Steps of the readers -/

section Steps

variable {bound nesting : Nat} {input behind tail : List Char} {c : Char}

/-- A text is a string. -/
theorem readValue_text {chars : List Char}
    (h : ∀ opened, readString opened behind = .ok (chars, tail)) :
    readValue (bound + 1) nesting ('"' :: behind) = .ok (text (String.ofList chars), tail) := by
  rw [readValue, h]
  rfl

/-- A fixed word is its value. -/
theorem readValue_word {d : Document} (h : readWord input = some (d, tail)) :
    readValue (bound + 1) nesting input = .ok (d, tail) := by
  have hne {d : Char} (hd : d ∉ ['n', 't', 'f', 'N', 'I', '-']) (rest : List Char) :
      input ≠ d :: rest := by
    rintro rfl
    unfold readWord at h
    split at h <;> simp_all
  rw [readValue, h]
  · exact hne (by decide)
  · exact hne (by decide)
  · exact hne (by decide)

/-- A closing bracket behind the opening one ends an empty list. -/
theorem readValue_emptyList (h : skipSpace behind = ']' :: tail) :
    readValue (bound + 1) (nesting + 1) ('[' :: behind) = .ok (list [], tail) := by
  rw [readValue]
  exact h

/-- A list is its items. -/
theorem readValue_list {items : List Document} (h : ∀ tail, skipSpace behind ≠ ']' :: tail)
    (hitems : readItems bound nesting (skipSpace behind) = .ok (items, rest)) :
    readValue (bound + 1) (nesting + 1) ('[' :: behind) = .ok (list items, rest) := by
  simp only [readValue, hitems]
  rfl

/-- A closing brace behind the opening one ends an empty object. -/
theorem readValue_emptyObject (h : skipSpace behind = '}' :: tail) :
    readValue (bound + 1) (nesting + 1) ('{' :: behind) = .ok (object [], tail) := by
  rw [readValue]
  exact h

/-- An object is its members. -/
theorem readValue_object {members : List (String × Document)}
    (h : ∀ tail, skipSpace behind ≠ '}' :: tail)
    (hmembers : readMembers bound nesting (skipSpace behind) = .ok (members, rest)) :
    readValue (bound + 1) (nesting + 1) ('{' :: behind) =
      .ok (object (ofPairs members), rest) := by
  simp only [readValue, hmembers]
  rfl

variable {item : Document}

/-- The last item stands in front of the closing bracket. -/
theorem readItems_last (h : readValue bound nesting input = .ok (item, behind))
    (hend : skipSpace behind = ']' :: tail) :
    readItems (bound + 1) nesting input = .ok ([item], tail) := by
  simp only [readItems, h, bind, Except.bind, hend]
  rfl

/-- Other items stand behind a comma. -/
theorem readItems_more {items : List Document}
    (h : readValue bound nesting input = .ok (item, behind))
    (hcomma : skipSpace behind = ',' :: tail)
    (hitems : readItems bound nesting (skipSpace tail) = .ok (items, rest)) :
    readItems (bound + 1) nesting input = .ok (item :: items, rest) := by
  simp only [readItems, h, bind, Except.bind, hcomma, hitems]
  rfl

/-- The last member stands in front of the closing brace. -/
theorem readMembers_last {name : String} {value : Document}
    (hname : ∀ opened, readString opened input = .ok (name.toList, ':' :: behind))
    (hvalue : readValue bound nesting (skipSpace behind) = .ok (value, rest))
    (hend : skipSpace rest = '}' :: tail) :
    readMembers (bound + 1) nesting ('"' :: input) = .ok ([(name, value)], tail) := by
  simp only [readMembers, hname, bind, Except.bind, skipSpace_cons (c := ':') rfl, hvalue, hend,
    String.ofList_toList]
  rfl

/-- Other members stand behind a comma. -/
theorem readMembers_more {name : String} {value : Document} {after : List Char}
    {members : List (String × Document)}
    (hname : ∀ opened, readString opened input = .ok (name.toList, ':' :: behind))
    (hvalue : readValue bound nesting (skipSpace behind) = .ok (value, after))
    (hcomma : skipSpace after = ',' :: tail)
    (hmembers : readMembers bound nesting (skipSpace tail) = .ok (members, rest)) :
    readMembers (bound + 1) nesting ('"' :: input) = .ok ((name, value) :: members, rest) := by
  simp only [readMembers, hname, bind, Except.bind, skipSpace_cons (c := ':') rfl, hvalue,
    hcomma, hmembers, String.ofList_toList]
  rfl

end Steps

/-! ## Values -/

/-- A value of an indented document is set apart by a line of its own. -/
theorem indented_spec (depth : Nat) : Layout.indented.opening depth = newLine (depth + 1) ∧
    Layout.indented.between depth = ',' :: newLine (depth + 1) ∧
      Layout.indented.closing depth = newLine depth := ⟨rfl, rfl, rfl⟩

/-- Space in front of a written value is skipped up to the value. -/
theorem skipSpace_write (layout : Layout) (depth : Nat) (d : Document) (rest : List Char) :
    skipSpace (write layout depth d ++ rest) = write layout depth d ++ rest := by
  obtain ⟨c, tail, hwrite, hbegins⟩ := begins_write layout depth d
  rw [hwrite]
  exact skipSpace_cons hbegins.1 _

/-- A written value does not begin with a closing bracket. -/
theorem write_ne_bracket (layout : Layout) (depth : Nat) (d : Document) (rest tail : List Char) :
    write layout depth d ++ rest ≠ ']' :: tail := by
  obtain ⟨c, behind, hwrite, hbegins⟩ := begins_write layout depth d
  rw [hwrite]
  exact fun heq => hbegins.2.1 (List.cons.inj heq).1

/-- Space in front of a string is skipped up to the string. -/
theorem skipSpace_writeString (s : String) (rest : List Char) :
    skipSpace (writeString s ++ rest) = writeString s ++ rest := rfl

/-- A member of a new name is put behind the others. -/
theorem put_of_not_mem {members : List (String × Document)} {name : String} (value : Document)
    (h : name ∉ members.map (·.1)) : put members name value = members ++ [(name, value)] := by
  induction members with
  | nil => rfl
  | cons member members ih =>
    simp only [List.map_cons, List.mem_cons, not_or] at h
    rw [put, if_neg (Ne.symm h.1), ih h.2, List.cons_append]

/-- Members of distinct new names are put behind the others. -/
theorem putAll_of_nodup {before members : List (String × Document)}
    (h : ((before ++ members).map (·.1)).Nodup) : putAll before members = before ++ members := by
  induction members generalizing before with
  | nil => exact (List.append_nil before).symm
  | cons member members ih =>
    have hnew : member.1 ∉ before.map (·.1) := by
      rw [List.map_append, List.nodup_append] at h
      exact fun hmem => h.2.2 _ hmem _ List.mem_cons_self rfl
    rw [List.append_cons] at h ⊢
    show putAll (put before member.1 member.2) members = _
    rw [put_of_not_mem member.2 hnew]
    exact ih h

/-- Members of distinct names are themselves. -/
theorem ofPairs_of_nodup {members : List (String × Document)}
    (h : (members.map (·.1)).Nodup) : ofPairs members = members := putAll_of_nodup h

mutual

/-- A value is read from its written form. -/
theorem readValue_write {bound nesting : Nat} (depth : Nat) {rest : List Char} (d : Document)
    (hfaithful : d.Everywhere Faithful) (hnesting : d.depth ≤ nesting)
    (hbound : 2 * (write .indented depth d).length ≤ bound) (hrest : AtBreak rest) :
    readValue bound nesting (write .indented depth d ++ rest) = .ok (d, rest) := by
  -- Something is written, so there is a step left for it.
  obtain ⟨bound, rfl⟩ : ∃ b, bound = b + 1 := by
    obtain ⟨c, tail, hwrite, -⟩ := begins_write .indented depth d
    rw [hwrite, List.length_cons] at hbound
    exact ⟨bound - 1, by omega⟩
  cases d with
  | null => exact readValue_word (by rw [write]; rfl)
  | bool value => cases value <;> exact readValue_word (by rw [write]; rfl)
  | int z =>
    rw [write]
    exact readValue_number (readNumber_toString hfaithful.1 hrest)
  | real x =>
    rw [write]
    cases x with
    | nan => cases hfaithful.2
    | infinite negative => cases negative <;> exact readValue_word rfl
    | finite negative m => exact readValue_number (readNumber_writeReal negative m hrest)
  | text s =>
    rw [write]
    obtain ⟨behind, hwritten, hread⟩ := readString_writeString s rest
    rw [hwritten, readValue_text hread, String.ofList_toList]
  | list items =>
    rw [Document.depth] at hnesting
    obtain ⟨nesting, rfl⟩ : ∃ n, nesting = n + 1 := ⟨nesting - 1, by omega⟩
    cases items with
    | nil =>
      rw [write]
      exact readValue_emptyList rfl
    | cons item items =>
      have hwrite : write .indented depth (list (item :: items)) ++ rest =
          '[' :: (newLine (depth + 1) ++ (write .indented (depth + 1) item ++
            (writeItems .indented depth items ++ (newLine depth ++ ']' :: rest)))) := by
        simp only [write, indented_spec, List.append_assoc, List.cons_append, List.nil_append]
      -- The two brackets leave the items a step more than twice their own length.
      simp only [write, indented_spec, List.length_append, List.length_cons,
        List.length_nil] at hbound
      rw [hwrite]
      refine readValue_list ?_ ?_
      · rw [skipSpace_newLine, skipSpace_write]
        exact write_ne_bracket _ _ item _
      · rw [skipSpace_newLine, skipSpace_write]
        refine readItems_write depth item items hfaithful.2 (by omega) ?_
        rw [List.length_append]
        omega
  | object members =>
    rw [Document.depth] at hnesting
    obtain ⟨nesting, rfl⟩ : ∃ n, nesting = n + 1 := ⟨nesting - 1, by omega⟩
    cases members with
    | nil =>
      rw [write]
      exact readValue_emptyObject rfl
    | cons member members =>
      obtain ⟨name, value⟩ := member
      have hwrite : write .indented depth (object ((name, value) :: members)) ++ rest =
          '{' :: (newLine (depth + 1) ++ (writeString name ++ ':' :: ' ' ::
            (write .indented (depth + 1) value ++
              (writeMembers .indented depth members ++ (newLine depth ++ '}' :: rest))))) := by
        simp only [write, indented_spec, List.append_assoc, List.cons_append, List.nil_append]
      simp only [write, indented_spec, List.length_append, List.length_cons,
        List.length_nil] at hbound
      rw [hwrite, ← ofPairs_of_nodup hfaithful.1.1]
      refine readValue_object ?_ ?_
      · rw [skipSpace_newLine, skipSpace_writeString]
        exact fun tail heq => absurd (List.cons.inj heq).1 (by decide)
      · rw [skipSpace_newLine, skipSpace_writeString]
        refine readMembers_write depth name value members hfaithful.2 (by omega) ?_
        rw [List.length_append]
        omega

/-- The items of a list are read from their written forms. -/
theorem readItems_write {bound nesting : Nat} (depth : Nat) {rest : List Char} (item : Document)
    (items : List Document) (hfaithful : EverywhereItems Faithful (item :: items))
    (hnesting : depthOfItems (item :: items) ≤ nesting)
    (hbound : 2 * (write .indented (depth + 1) item ++ writeItems .indented depth items).length + 1
      ≤ bound) :
    readItems bound nesting (write .indented (depth + 1) item ++
      (writeItems .indented depth items ++ (newLine depth ++ ']' :: rest))) =
        .ok (item :: items, rest) := by
  obtain ⟨bound, rfl⟩ : ∃ b, bound = b + 1 := ⟨bound - 1, by omega⟩
  rw [depthOfItems] at hnesting
  rw [List.length_append] at hbound
  cases items with
  | nil =>
    refine readItems_last (readValue_write (depth + 1) item hfaithful.1 (by omega) (by omega)
      (atBreak_newLine _ _)) ?_
    rw [writeItems, List.nil_append, skipSpace_newLine]
    rfl
  | cons next items =>
    have hwrite : writeItems .indented depth (next :: items) ++ (newLine depth ++ ']' :: rest) =
        ',' :: (newLine (depth + 1) ++ (write .indented (depth + 1) next ++
          (writeItems .indented depth items ++ (newLine depth ++ ']' :: rest)))) := by
      simp only [writeItems, indented_spec, List.append_assoc, List.cons_append]
    rw [hwrite]
    simp only [writeItems, indented_spec, List.length_append, List.length_cons] at hbound
    refine readItems_more (readValue_write (depth + 1) item hfaithful.1 (by omega) (by omega)
      (.comma _)) (skipSpace_cons rfl _) ?_
    rw [skipSpace_newLine, skipSpace_write]
    refine readItems_write depth next items hfaithful.2 (by omega) ?_
    rw [List.length_append]
    omega

/-- The members of an object are read from their written forms. -/
theorem readMembers_write {bound nesting : Nat} (depth : Nat) {rest : List Char} (name : String)
    (value : Document) (members : List (String × Document))
    (hfaithful : EverywhereMembers Faithful ((name, value) :: members))
    (hnesting : depthOfMembers ((name, value) :: members) ≤ nesting)
    (hbound : 2 * (write .indented (depth + 1) value ++
      writeMembers .indented depth members).length + 1 ≤ bound) :
    readMembers bound nesting (writeString name ++ ':' :: ' ' ::
      (write .indented (depth + 1) value ++
        (writeMembers .indented depth members ++ (newLine depth ++ '}' :: rest)))) =
        .ok ((name, value) :: members, rest) := by
  obtain ⟨bound, rfl⟩ : ∃ b, bound = b + 1 := ⟨bound - 1, by omega⟩
  rw [depthOfMembers] at hnesting
  rw [List.length_append] at hbound
  obtain ⟨behind, hwritten, hname⟩ := readString_writeString name (':' :: ' ' ::
    (write .indented (depth + 1) value ++
      (writeMembers .indented depth members ++ (newLine depth ++ '}' :: rest))))
  rw [hwritten]
  have hvalue (text : List Char) (htext : AtBreak text) :
      readValue bound nesting (skipSpace (' ' :: (write .indented (depth + 1) value ++ text))) =
        .ok (value, text) := by
    have hskip : skipSpace (' ' :: (write .indented (depth + 1) value ++ text)) =
        write .indented (depth + 1) value ++ text := skipSpace_write _ _ value text
    rw [hskip]
    exact readValue_write (depth + 1) value hfaithful.1 (by omega) (by omega) htext
  cases members with
  | nil =>
    exact readMembers_last hname (hvalue _ (atBreak_newLine _ _))
      (skipSpace_newLine depth ('}' :: rest))
  | cons next members =>
    obtain ⟨nextName, nextValue⟩ := next
    have hwrite : writeMembers .indented depth ((nextName, nextValue) :: members) ++
        (newLine depth ++ '}' :: rest) =
          ',' :: (newLine (depth + 1) ++ (writeString nextName ++ ':' :: ' ' ::
            (write .indented (depth + 1) nextValue ++
              (writeMembers .indented depth members ++ (newLine depth ++ '}' :: rest))))) := by
      simp only [writeMembers, indented_spec, List.append_assoc, List.cons_append,
        List.nil_append]
    rw [hwrite] at hname
    simp only [writeMembers, indented_spec, List.length_append, List.length_cons] at hbound
    refine readMembers_more hname (hvalue _ (.comma _)) (skipSpace_cons rfl _) ?_
    rw [skipSpace_newLine, skipSpace_writeString]
    refine readMembers_write depth nextName nextValue members hfaithful.2 (by omega) ?_
    rw [List.length_append]
    omega

end

/-- A document is read from its indented text, when its levels may be read. -/
theorem read_renderIndented {d : Document} (hfaithful : d.Everywhere Faithful)
    (hdepth : d.depth ≤ maxNesting) : Document.read d.renderIndented = .ok d := by
  obtain ⟨c, tail, hwrite, hbegins⟩ := begins_write .indented 0 d
  have hread : readValue (2 * (write .indented 0 d).length + 2) maxNesting
      (write .indented 0 d) = .ok (d, []) := by
    have := readValue_write 0 d hfaithful hdepth (Nat.le_add_right _ 2) .done
    rwa [List.append_nil] at this
  have hskip : skipSpace (write .indented 0 d) = write .indented 0 d := by
    have := skipSpace_write .indented 0 d []
    rwa [List.append_nil] at this
  rw [Document.read, renderIndented, String.toList_ofList]
  unfold readChars
  split
  · rename_i heq
    rw [hwrite] at heq
    exact absurd (List.cons.inj heq).1 hbegins.2.2.2
  · simp only [hskip, hread]
    rfl

end Concord.Document
