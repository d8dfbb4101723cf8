import Concord.Program

/-!
# Which configurations are decided

A configuration ought to be accepted or refused, whatever stands in its file. It is decided
(`Decided`) exactly if the file can be read as a document with names and values, and every setting
that is checked is of a kind that the check can use (`Config.WellKinded`). Everything else is a
fault, which no refusal covers: bytes that are not UTF-8, numbers of too many digits, lists in lists
on too many levels, a document without names, and a setting of a wrong kind.

The main statement is `decided_iff_usable`.
-/

namespace Concord

/-- A step of two parts has a result exactly if the first part has one, with which the second one
has one. -/
theorem isOk_bind {ε α β : Type} {first : Except ε α} {next : α → Except ε β} :
    (first >>= next).isOk = true ↔ ∃ a, first = .ok a ∧ (next a).isOk = true := by
  cases first with
  | error fault => simp [bind, Except.bind, Except.isOk, Except.toBool]
  | ok a => simp [bind, Except.bind]

namespace Document

/-- A setting can be compared exactly if it is a number. -/
theorem isOk_numberFor (relation : String) {d : Document} :
    (d.numberFor relation).isOk = true ↔ d.number?.isSome = true := by
  unfold numberFor
  cases d.number? <;> simp [Except.isOk, Except.toBool]

/-- A setting can be walked through exactly if it has parts. -/
theorem items_eq_ok {d : Document} {parts : List Document} :
    d.items = .ok parts ↔ d.items? = some parts := by
  unfold items
  cases d.items? <;> simp

/-- The document has names and values: it is an object, or all of its parts are pairs of a value
that can be a name and another value. -/
def HasEntries (d : Document) : Prop :=
  (∃ members, d = .object members) ∨ ∃ parts, d.items? = some parts ∧
    ∀ part ∈ parts, ∃ name value, part.items? = some [name, value] ∧ name.isKey = true

/-- A part is a pair exactly if it has two parts. -/
theorem pairOf_eq_ok {index : Nat} {d name value : Document} :
    pairOf index d = .ok (name, value) ↔ d.items? = some [name, value] := by
  cases d with
  | list items =>
    match items with
    | [] | [_] | _ :: _ :: _ :: _ => simp [pairOf, items?]
    | [a, b] => simp [pairOf, items?]
  | text s =>
    simp only [pairOf, items?]
    match s.toList with
    | [] | [_] | _ :: _ :: _ :: _ => simp
    | [a, b] => simp
  | object members =>
    match members with
    | [] | [_] | _ :: _ :: _ :: _ => simp [pairOf, items?]
    | [(a, _), (b, _)] => simp [pairOf, items?]
  | null | bool | int | real => simp [pairOf, items?]

/-- A list is one of pairs exactly if every entry is a pair whose first part can be a name. -/
theorem isOk_pairsFrom {index : Nat} {entries : List Document} :
    (pairsFrom index entries).isOk = true ↔
      ∀ entry ∈ entries, ∃ name value, entry.items? = some [name, value] ∧ name.isKey = true := by
  induction entries generalizing index with
  | nil => simp [pairsFrom, Except.isOk, Except.toBool]
  | cons entry rest ih =>
    rw [pairsFrom, isOk_bind, List.forall_mem_cons, ← @ih (index + 1)]
    constructor
    · rintro ⟨⟨name, value⟩, hpair, hrest⟩
      simp only at hrest
      split at hrest
      · rename_i hkey
        obtain ⟨others, hothers, -⟩ := isOk_bind.1 hrest
        exact ⟨⟨name, value, pairOf_eq_ok.1 hpair, hkey⟩, by rw [hothers]; rfl⟩
      · cases hrest
    · rintro ⟨⟨name, value, hpair, hkey⟩, hrest⟩
      obtain ⟨others, hothers⟩ := exists_of_isOk hrest
      refine ⟨(name, value), pairOf_eq_ok.2 hpair, ?_⟩
      simp only [hkey, if_true]
      exact isOk_bind.2 ⟨others, hothers, rfl⟩

/-- The names and values of a document can be taken exactly if it has some. -/
theorem isOk_entries {d : Document} : d.entries.isOk = true ↔ d.HasEntries := by
  unfold HasEntries
  cases d with
  | object members => simp [entries, Except.isOk, Except.toBool]
  | list items => simp [entries, isOk_pairsFrom, items?]
  | text s => simp [entries, isOk_pairsFrom, items?]
  | null | bool | int | real => simp [entries, items?, Except.isOk, Except.toBool]

end Document

namespace Config

/-! ## Kinds of settings -/

/-- The setting is a name: a text that is not blank. -/
def IsName (d : Document) : Prop := ∃ s, d = .text s ∧ Text.strip s ≠ ""

/-- The setting can be walked through, and up to the first value that is no name only texts are
set. -/
def ListsNames (d : Document) : Prop :=
  ∃ parts, d.items? = some parts ∧ ∀ before part after, parts = before ++ part :: after →
    (∀ name ∈ before, IsName name) → part.isSet = true → ∃ s, part = .text s

/-- Every setting that is checked is of a kind that the check can use: the settings with bounds are
numbers, the peers are names, and an endpoint that is set has parts. -/
structure WellKinded (c : Config) : Prop where
  numbers : ∀ d ∈ [c.minPoll, c.maxPoll, c.rateSize, c.maxSamples, c.goodFilter] ++
    [c.maxStd, c.queryTimeout, c.rateInterval], d.number?.isSome = true
  peers : ListsNames c.peers
  endpoints : ∀ d ∈ [c.listen, c.metric], d.isSet = true → d.items?.isSome = true

/-- A setting can be raised to a bound exactly if it is a number, and stays one. -/
theorem atLeast_number {bound : Int} {d : Document} :
    (atLeast bound d).isOk = d.number?.isSome ∧
      ∀ raised, atLeast bound d = .ok raised → raised.number?.isSome = true := by
  unfold atLeast Document.numberFor
  cases hn : d.number? with
  | none => exact ⟨rfl, fun _ h => by cases h⟩
  | some n =>
    refine ⟨rfl, ?_⟩
    intro raised h
    cases h
    split
    · rfl
    · rw [hn]
      rfl

/-- A setting can be cut to a bound exactly if it is a number, and stays one. -/
theorem atMost_number {bound : Int} {d : Document} :
    (atMost bound d).isOk = d.number?.isSome ∧
      ∀ cut, atMost bound d = .ok cut → cut.number?.isSome = true := by
  unfold atMost Document.numberFor
  cases hn : d.number? with
  | none => exact ⟨rfl, fun _ h => by cases h⟩
  | some n =>
    refine ⟨rfl, ?_⟩
    intro cut h
    cases h
    split
    · rfl
    · rw [hn]
      rfl

/-- The bounds of the trust levels can be brought in order exactly if both are numbers. -/
theorem isOk_clampPolls {minPoll maxPoll : Document} :
    (clampPolls minPoll maxPoll).isOk = true ↔
      minPoll.number?.isSome = true ∧ maxPoll.number?.isSome = true := by
  rw [clampPolls, isOk_bind]
  constructor
  · rintro ⟨low, hlow, hrest⟩
    obtain ⟨high, hhigh, -⟩ := isOk_bind.1 hrest
    rw [← atLeast_number.1, ← atMost_number.1, hlow, hhigh]
    exact ⟨rfl, rfl⟩
  · rintro ⟨hmin, hmax⟩
    rw [← atLeast_number.1] at hmin
    rw [← atMost_number.1] at hmax
    obtain ⟨low, hlow⟩ := exists_of_isOk hmin
    obtain ⟨high, hhigh⟩ := exists_of_isOk hmax
    obtain ⟨lowNumber, hlowNumber⟩ :=
      exists_of_isOk ((Document.isOk_numberFor "<").2 (atLeast_number.2 low hlow))
    obtain ⟨highNumber, hhighNumber⟩ :=
      exists_of_isOk ((Document.isOk_numberFor "<").2 (atMost_number.2 high hhigh))
    exact ⟨low, hlow, isOk_bind.2 ⟨high, hhigh, isOk_bind.2 ⟨lowNumber, hlowNumber,
      isOk_bind.2 ⟨highNumber, hhighNumber, rfl⟩⟩⟩⟩

/-- A configuration can be clamped exactly if its settings with bounds are numbers. The settings
without bounds stay. -/
theorem isOk_clamp {c : Config} :
    (c.clamp.isOk = true ↔ ∀ d ∈ [c.minPoll, c.maxPoll, c.rateSize, c.maxSamples, c.goodFilter],
        d.number?.isSome = true) ∧
      ∀ clamped, c.clamp = .ok clamped → ∃ minPoll maxPoll rateSize maxSamples goodFilter,
        clamped = { c with minPoll, maxPoll, rateSize, maxSamples, goodFilter } := by
  refine ⟨?_, ?_⟩
  · simp only [List.forall_mem_cons, List.not_mem_nil, false_imp_iff, implies_true, and_true]
    rw [clamp, isOk_bind]
    constructor
    · rintro ⟨polls, hpolls, hrest⟩
      obtain ⟨rateSize, hrate, hrest⟩ := isOk_bind.1 hrest
      obtain ⟨maxSamples, hmax, hrest⟩ := isOk_bind.1 hrest
      obtain ⟨goodFilter, hgood, -⟩ := isOk_bind.1 hrest
      obtain ⟨hlow, hhigh⟩ := isOk_clampPolls.1 (by rw [hpolls]; rfl)
      refine ⟨hlow, hhigh, ?_, ?_, ?_⟩
      · rw [← atLeast_number.1, hrate]
        rfl
      · rw [← atLeast_number.1, hmax]
        rfl
      · rw [← atLeast_number.1, hgood]
        rfl
    · rintro ⟨hlow, hhigh, hrate, hmax, hgood⟩
      rw [← atLeast_number.1] at hrate hmax hgood
      obtain ⟨polls, hpolls⟩ := exists_of_isOk (isOk_clampPolls.2 ⟨hlow, hhigh⟩)
      obtain ⟨rateSize, hrate⟩ := exists_of_isOk hrate
      obtain ⟨maxSamples, hmax⟩ := exists_of_isOk hmax
      obtain ⟨goodFilter, hgood⟩ := exists_of_isOk hgood
      exact ⟨polls, hpolls, isOk_bind.2 ⟨rateSize, hrate, isOk_bind.2 ⟨maxSamples, hmax,
        isOk_bind.2 ⟨goodFilter, hgood, rfl⟩⟩⟩⟩
  · intro clamped h
    unfold clamp at h
    obtain ⟨⟨minPoll, maxPoll⟩, -, h⟩ := bind_eq_ok.1 h
    obtain ⟨rateSize, -, h⟩ := bind_eq_ok.1 h
    obtain ⟨maxSamples, -, h⟩ := bind_eq_ok.1 h
    obtain ⟨goodFilter, -, h⟩ := bind_eq_ok.1 h
    cases h
    exact ⟨_, _, _, _, _, rfl⟩

/-- A text that is set is looked at, and the others only if it is not blank. -/
theorem anyBlank_text {s : String} {rest : List Document} (h : (Document.text s).isSet = true) :
    anyBlank (.text s :: rest) = if Text.strip s = "" then .ok true else anyBlank rest := by
  rw [anyBlank, if_pos h]
  simp only [Document.textFor, bind, Except.bind, pure, Except.pure]

/-- The search for a blank name ends exactly if, up to the first value that is no name, only texts
are set. -/
theorem isOk_anyBlank {parts : List Document} :
    (anyBlank parts).isOk = true ↔ ∀ before part after, parts = before ++ part :: after →
      (∀ name ∈ before, IsName name) → part.isSet = true → ∃ s, part = .text s := by
  induction parts with
  | nil => simp [anyBlank, Except.isOk, Except.toBool]
  | cons first rest ih =>
    have hname : IsName first → ((anyBlank (first :: rest)).isOk = true ↔
        (anyBlank rest).isOk = true) := by
      rintro ⟨s, rfl, hstrip⟩
      have hset : (Document.text s).isSet = true := by
        refine decide_eq_true fun hempty => hstrip ?_
        rw [hempty]
        rfl
      rw [anyBlank_text hset, if_neg hstrip]
    have hother : ¬ IsName first → ((anyBlank (first :: rest)).isOk = true ↔
        (first.isSet = true → ∃ s, first = .text s)) := by
      intro hnot
      by_cases hset : first.isSet = true
      · cases first with
        | text s =>
          have hstrip : Text.strip s = "" :=
            Decidable.byContradiction fun hstrip => hnot ⟨s, rfl, hstrip⟩
          rw [anyBlank_text hset, if_pos hstrip]
          exact ⟨fun _ _ => ⟨s, rfl⟩, fun _ => rfl⟩
        | null | bool | int | real | list | object =>
          rw [anyBlank, if_pos hset]
          exact ⟨fun h => (by cases h), fun h => by cases (h hset).choose_spec⟩
      · rw [anyBlank, if_neg hset]
        exact ⟨fun _ h => absurd h hset, fun _ => rfl⟩
    by_cases hfirst : IsName first
    · -- A name is passed over, so the condition is that on the others.
      rw [hname hfirst, ih]
      constructor
      · intro h before part after heq hbefore hset
        cases before with
        | nil =>
          cases heq
          obtain ⟨s, rfl, -⟩ := hfirst
          exact ⟨s, rfl⟩
        | cons b before =>
          cases heq
          exact h before part after rfl (fun name hmem => hbefore name (.tail _ hmem)) hset
      · intro h before part after heq hbefore hset
        refine h (first :: before) part after (by rw [heq]; rfl) ?_ hset
        intro name hmem
        obtain rfl | hmem := List.mem_cons.1 hmem
        · exact hfirst
        · exact hbefore name hmem
    · rw [hother hfirst]
      constructor
      · intro h before part after heq hbefore hset
        cases before with
        | nil =>
          cases heq
          exact h hset
        | cons b before =>
          cases heq
          exact absurd (hbefore first (.head _)) hfirst
      · intro h hset
        exact h [] first rest rfl (by simp) hset

/-- The peers can be checked exactly if they are names. -/
theorem isOk_peerProblems {d : Document} : (peerProblems d).isOk = true ↔ ListsNames d := by
  rw [peerProblems, isOk_bind]
  constructor
  · rintro ⟨parts, hparts, hrest⟩
    obtain ⟨blank, hblank, -⟩ := isOk_bind.1 hrest
    exact ⟨parts, Document.items_eq_ok.1 hparts, isOk_anyBlank.1 (by rw [hblank]; rfl)⟩
  · rintro ⟨parts, hparts, hnames⟩
    obtain ⟨blank, hblank⟩ := exists_of_isOk (isOk_anyBlank.2 hnames)
    exact ⟨parts, Document.items_eq_ok.2 hparts, isOk_bind.2 ⟨blank, hblank, rfl⟩⟩

/-- An endpoint can be checked exactly if it is not set or has parts. -/
theorem isOk_endpointProblems {name : String} {d : Document} :
    (endpointProblems name d).isOk = true ↔ (d.isSet = true → d.items?.isSome = true) := by
  unfold endpointProblems
  by_cases hset : d.isSet = true
  · rw [if_pos hset, isOk_bind]
    cases d <;> simp_all [hasColon, Document.items?, pure, Except.pure, Except.isOk, Except.toBool]
  · rw [if_neg hset]
    exact ⟨fun _ h => absurd h hset, fun _ => rfl⟩

/-- The problems with a configuration can be listed exactly if the settings without bounds are of
the right kinds. -/
theorem isOk_problems {c : Config} :
    c.problems.isOk = true ↔ ListsNames c.peers ∧
      (∀ d ∈ [c.maxStd, c.queryTimeout, c.rateInterval], d.number?.isSome = true) ∧
      ∀ d ∈ [c.listen, c.metric], d.isSet = true → d.items?.isSome = true := by
  simp only [List.forall_mem_cons, List.not_mem_nil, false_imp_iff, implies_true, and_true]
  rw [problems, isOk_bind]
  constructor
  · rintro ⟨peers, hpeers, hrest⟩
    obtain ⟨maxStd, hstd, hrest⟩ := isOk_bind.1 hrest
    obtain ⟨queryTimeout, htimeout, hrest⟩ := isOk_bind.1 hrest
    obtain ⟨rateInterval, hinterval, hrest⟩ := isOk_bind.1 hrest
    obtain ⟨listen, hlisten, hrest⟩ := isOk_bind.1 hrest
    obtain ⟨metric, hmetric, -⟩ := isOk_bind.1 hrest
    refine ⟨isOk_peerProblems.1 (by rw [hpeers]; rfl), ⟨?_, ?_, ?_⟩, ?_, ?_⟩
    · exact (Document.isOk_numberFor _).1 (by rw [hstd]; rfl)
    · exact (Document.isOk_numberFor _).1 (by rw [htimeout]; rfl)
    · exact (Document.isOk_numberFor _).1 (by rw [hinterval]; rfl)
    · exact isOk_endpointProblems.1 (by rw [hlisten]; rfl)
    · exact isOk_endpointProblems.1 (by rw [hmetric]; rfl)
  · rintro ⟨hpeers, ⟨hstd, htimeout, hinterval⟩, hlisten, hmetric⟩
    obtain ⟨peers, hpeers⟩ := exists_of_isOk (isOk_peerProblems.2 hpeers)
    obtain ⟨maxStd, hstd⟩ := exists_of_isOk ((Document.isOk_numberFor _).2 hstd)
    obtain ⟨queryTimeout, htimeout⟩ := exists_of_isOk ((Document.isOk_numberFor _).2 htimeout)
    obtain ⟨rateInterval, hinterval⟩ := exists_of_isOk ((Document.isOk_numberFor _).2 hinterval)
    obtain ⟨listen, hlisten⟩ := exists_of_isOk (isOk_endpointProblems.2 hlisten)
    obtain ⟨metric, hmetric⟩ := exists_of_isOk (isOk_endpointProblems.2 hmetric)
    exact ⟨peers, hpeers, isOk_bind.2 ⟨maxStd, hstd, isOk_bind.2 ⟨queryTimeout, htimeout,
      isOk_bind.2 ⟨rateInterval, hinterval, isOk_bind.2 ⟨listen, hlisten,
        isOk_bind.2 ⟨metric, hmetric, rfl⟩⟩⟩⟩⟩⟩

/-- A configuration can be clamped and checked exactly if its settings are of the right kinds. -/
theorem wellKinded_iff {c : Config} :
    c.WellKinded ↔ ∃ clamped, c.clamp = .ok clamped ∧ clamped.problems.isOk = true := by
  obtain ⟨hclamp, hframe⟩ := c.isOk_clamp
  constructor
  · intro h
    have hnumbers := h.numbers
    rw [List.forall_mem_append] at hnumbers
    obtain ⟨clamped, hclamped⟩ := exists_of_isOk (hclamp.2 hnumbers.1)
    obtain ⟨_, _, _, _, _, rfl⟩ := hframe clamped hclamped
    exact ⟨_, hclamped, isOk_problems.2 ⟨h.peers, hnumbers.2, h.endpoints⟩⟩
  · rintro ⟨clamped, hclamped, hproblems⟩
    have hbounds := hclamp.1 (by rw [hclamped]; rfl)
    obtain ⟨_, _, _, _, _, rfl⟩ := hframe clamped hclamped
    obtain ⟨hpeers, hothers, hendpoints⟩ := isOk_problems.1 hproblems
    exact ⟨List.forall_mem_append.2 ⟨hbounds, hothers⟩, hpeers, hendpoints⟩

end Config

namespace Program

/-! ## Decided configurations -/

/-- A configuration is decided when it is accepted or refused. -/
inductive Decided : Except Trouble Config → Prop where
  | accepted (config : Config) : Decided (.ok config)
  | refused (fault : ConfigFault) : Decided (.error (.failure (.config fault)))

/-- What is not decided is a fault. -/
def IsFault (result : Except Trouble Config) : Prop := ∃ fault, result = .error (.fault fault)

/-- What is a fault is not decided. -/
theorem IsFault.not_decided {result : Except Trouble Config} (h : IsFault result) :
    ¬ Decided result := by
  obtain ⟨fault, rfl⟩ := h
  nofun

instance (result : Except Trouble Config) : Decidable (IsFault result) :=
  match result with
  | .error (.fault fault) => .isTrue ⟨fault, rfl⟩
  | .error (.failure _) => .isFalse (by rintro ⟨_, h⟩; cases h)
  | .ok _ => .isFalse (by rintro ⟨_, h⟩; cases h)

/-- The check of a configuration decides it exactly if its settings are of the right kinds, and
comes to a fault otherwise. -/
theorem decided_checked (c : Config) :
    (c.WellKinded → Decided (checked c)) ∧ (¬ c.WellKinded → IsFault (checked c)) := by
  rw [Config.wellKinded_iff]
  unfold checked
  cases hclamp : c.clamp with
  | error fault => exact ⟨fun ⟨_, h, _⟩ => (by cases h), fun _ => ⟨fault, rfl⟩⟩
  | ok clamped =>
    simp only [Except.ok.injEq, exists_eq_left']
    cases hproblems : clamped.problems with
    | error fault => exact ⟨fun h => (by cases h), fun _ => ⟨fault, rfl⟩⟩
    | ok problems =>
      refine ⟨fun _ => ?_, fun h => absurd rfl h⟩
      cases problems with
      | nil => exact .accepted _
      | cons first rest => exact .refused _

/-- The content of a file can be used with the options: it is text in UTF-8; if it is read as a
document, that has names and values, and if these are settings, they are, with the options, of the
right kinds; and if it is not read as a document, no number of too many digits and no lists on too
many levels are the reason. -/
def UsableContent (o : Options) (content : ByteArray) : Prop :=
  ∃ raw, String.fromUTF8? content = some raw ∧
    match Document.read (String.ofList (unifyLineEnds raw.toList)) with
    | .error failure => ∃ defect left, failure = .malformed defect left
    | .ok d => d.HasEntries ∧
        ∀ config, Config.ofDocument d = .ok config → (applyOptions config o).WellKinded

/-- The configuration that the options ask for can be decided: without a file, if the options leave
the default settings of the right kinds; with a file, if its path holds no null character, and its
content can be used, unless it cannot be opened. -/
def Usable (o : Options) (disk : Disk) : Prop :=
  match Options.text? o.config with
  | none => (applyOptions {} o).WellKinded
  | some path => '\x00' ∉ path.toList ∧
      ∀ content, disk.contentAt path = .ok content → UsableContent o content

/-- A document is taken as settings or refused exactly if it has names and values. -/
theorem ofDocument_cases (d : Document) :
    (d.HasEntries → Decided (Config.ofDocument d)) ∧
      (¬ d.HasEntries → IsFault (Config.ofDocument d)) := by
  rw [← Document.isOk_entries]
  unfold Config.ofDocument
  cases d.entries with
  | error fault => exact ⟨fun h => (by cases h), fun _ => ⟨fault, rfl⟩⟩
  | ok entries =>
    refine ⟨fun _ => ?_, fun h => absurd rfl h⟩
    simp only
    split
    · exact .refused _
    · exact .accepted _

/-- The configuration in a content is decided, with the options, exactly if the content can be
used. -/
theorem decided_content (o : Options) (path : String) (content : ByteArray) :
    (UsableContent o content → Decided (((Config.documentOfBytes path content).bind
        Config.ofDocument).bind fun config => checked (applyOptions config o))) ∧
      (¬ UsableContent o content → IsFault (((Config.documentOfBytes path content).bind
        Config.ofDocument).bind fun config => checked (applyOptions config o))) := by
  unfold UsableContent Config.documentOfBytes
  cases String.fromUTF8? content with
  | none => exact ⟨fun ⟨_, h, _⟩ => (by cases h), fun _ => ⟨_, rfl⟩⟩
  | some raw =>
    simp only [Option.some.injEq, exists_eq_left']
    cases hread : Document.read (String.ofList (unifyLineEnds raw.toList)) with
    | error failure =>
      cases failure with
      | malformed defect left => exact ⟨fun _ => .refused _, fun h => absurd ⟨_, _, rfl⟩ h⟩
      | tooManyDigits count => exact ⟨fun ⟨_, _, h⟩ => (by cases h), fun _ => ⟨_, rfl⟩⟩
      | tooDeep => exact ⟨fun ⟨_, _, h⟩ => (by cases h), fun _ => ⟨_, rfl⟩⟩
    | ok d =>
      obtain ⟨hentries, hnone⟩ := ofDocument_cases d
      simp only [Except.bind]
      by_cases h : d.HasEntries
      · have hdecided := hentries h
        cases hconfig : Config.ofDocument d with
        | error trouble =>
          rw [hconfig] at hdecided
          cases hdecided
          exact ⟨fun _ => .refused _, fun hnot => absurd ⟨h, by simp⟩ hnot⟩
        | ok config =>
          obtain ⟨hkinds, hfault⟩ := decided_checked (applyOptions config o)
          refine ⟨fun husable => hkinds (husable.2 config rfl), fun hnot => hfault ?_⟩
          intro hwell
          refine hnot ⟨h, ?_⟩
          intro other hother
          cases hother
          exact hwell
      · obtain ⟨fault, hfault⟩ := hnone h
        rw [hfault]
        exact ⟨fun husable => absurd husable.1 h, fun _ => ⟨fault, rfl⟩⟩

/-- The configuration that the options ask for is accepted or refused exactly if it can be decided.
Otherwise a fault ends the program. -/
theorem decided_iff_usable (o : Options) (disk : Disk) (w : World) :
    (Decided (configure o disk w).1 ↔ Usable o disk) ∧
      (Decided (configure o disk w).1 ∨ IsFault (configure o disk w).1) := by
  have hcases : (Usable o disk → Decided (configure o disk w).1) ∧
      (¬ Usable o disk → IsFault (configure o disk w).1) := by
    unfold Usable configure
    cases Options.text? o.config with
    | none =>
      have hchecked := decided_checked (applyOptions {} o)
      simp only
      exact hchecked
    | some path =>
      simp only [Config.load, Config.ofFile]
      by_cases hnull : '\x00' ∈ path.toList
      · rw [if_pos (List.contains_iff_mem.2 hnull)]
        exact ⟨fun h => absurd hnull h.1, fun _ => ⟨_, rfl⟩⟩
      · rw [if_neg (mt List.contains_iff_mem.1 hnull)]
        cases disk.contentAt path with
        | error error => exact ⟨fun _ => .refused _, fun h => absurd ⟨hnull, by simp⟩ h⟩
        | ok content =>
          obtain ⟨husable, hfault⟩ := decided_content o path content
          simp only [Except.ok.injEq, forall_eq', hnull, not_false_iff, true_and]
          generalize (Config.documentOfBytes path content).bind Config.ofDocument = loaded
            at husable hfault ⊢
          cases loaded with
          | error trouble => exact ⟨husable, hfault⟩
          | ok config => exact ⟨husable, hfault⟩
  by_cases husable : Usable o disk
  · have hdecided := hcases.1 husable
    exact ⟨⟨fun _ => husable, fun _ => hdecided⟩, .inl hdecided⟩
  · have hfault := hcases.2 husable
    exact ⟨⟨fun hdecided => absurd hdecided hfault.not_decided, fun h => absurd h husable⟩,
      .inr hfault⟩

/-- What becomes of a file with the given content, without further options. -/
def configured (content : ByteArray) : Except Trouble Config :=
  (configure { config := some (.text "q.json") } (Disk.ofFiles [("q.json", content)]) {}).1

/-- A file of one byte that begins no character, a lower bound that is a text, and a peer that is a
number are neither accepted nor refused. -/
theorem undecided_of_illTyped :
    ¬ Decided (configured ⟨#[0xff]⟩) ∧ ¬ Decided (configured "\x7b\"min_poll\": \"1\"\x7d".toUTF8) ∧
      ¬ Decided (configured "\x7b\"peers\": [5]\x7d".toUTF8) := by
  refine ⟨IsFault.not_decided ?_, IsFault.not_decided ?_, IsFault.not_decided ?_⟩ <;>
    decide +kernel

end Program

end Concord
