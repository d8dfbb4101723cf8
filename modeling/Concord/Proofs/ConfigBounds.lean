import Concord.Proofs.ConfigRoundTrip
import Concord.Proofs.RoundResult
import Concord.Proofs.SettingKinds
import Concord.Proofs.TrustHistory

/-!
# The bounds of an accepted configuration

When the settings of a configuration have the kinds that they are declared with, clamping it is a
calculation with whole numbers (`clamp_of_whole`): it brings five settings into their bounds, and
leaves a configuration alone that is within them already. The check that follows refuses by
comparing, so the deviation, the time for an answer and the interval of an accepted configuration
are not compared to be too small (`problems_eq_nil_iff`), which does not bound not-a-number.

The main statement is `bounded_of_configure`: an accepted configuration is within all bounds, but
for each of these three settings exactly when it is a number.
-/

namespace Concord

namespace Number

/-- A number does not compare to be zero or below exactly if it is above zero or not-a-number. -/
theorem le_zero_eq_false_iff {n : Number} :
    n.le (.int 0) = false ↔ (int 0).lt n = true ∨ n = real .nan := by
  constructor
  · intro h
    by_contra hnot
    obtain ⟨hpos, hne⟩ := not_or.1 hnot
    have hle := le_of_lt_eq_false (le_int.2 (Int.le_refl 0)) (le_self hne)
      (Bool.not_eq_true _ ▸ hpos)
    rw [h] at hle
    cases hle
  · rintro (hpos | rfl)
    · by_contra hle
      rw [lt_eq_false_of_le (Bool.not_eq_false _ ▸ hle)] at hpos
      cases hpos
    · rfl

/-- A number does not compare to be below zero exactly if it is zero or above or not-a-number. -/
theorem lt_zero_eq_false_iff {n : Number} :
    n.lt (.int 0) = false ↔ (int 0).le n = true ∨ n = real .nan := by
  constructor
  · intro h
    by_cases hnan : n = real .nan
    · exact .inr hnan
    · exact .inl (le_of_lt_eq_false (le_self hnan) (le_int.2 (Int.le_refl 0)) h)
  · rintro (hle | rfl)
    · exact lt_eq_false_of_le hle
    · rfl

/-- A number is read from the document that it is. -/
theorem number?_toDocument (n : Number) : n.toDocument.number? = some n := by
  cases n <;> rfl

/-- Different numbers are different documents. -/
theorem toDocument_inj {n n' : Number} (h : n.toDocument = n'.toDocument) : n = n' := by
  have hread := congrArg Document.number? h
  rwa [number?_toDocument, number?_toDocument, Option.some.injEq] at hread

end Number

namespace Config

/-! ## Settings of their declared kinds -/

/-- The names of the settings that are whole numbers. -/
def wholeNames : List String := ["min_poll", "max_poll", "rate_size", "max_samples", "good_filter"]

/-- The names of the settings that are numbers of either kind. -/
def numberNames : List String := ["max_std", "query_timeout", "rate_interval"]

/-- Whether a value is of the kind that the setting of a name is declared with, as far as the kind
decides how it is checked. -/
def isDeclared (name : String) (d : Document) : Bool :=
  match d with
  | .int _ => name ≠ "peers"
  | .real _ => name ∉ "peers" :: wholeNames
  | .list _ => name ∉ wholeNames ++ numberNames
  | _ => name ∉ "peers" :: wholeNames ++ numberNames

/-- All settings are of the kinds that they are declared with. -/
def Declared (c : Config) : Prop := ∀ m ∈ c.settings, isDeclared m.1 m.2 = true

variable {c : Config}

/-- A setting that is declared as a whole number is one. -/
theorem exists_int_of_isDeclared {name : String} {d : Document} (h : isDeclared name d = true)
    (hname : name ∈ wholeNames) : ∃ z, d = .int z := by
  cases d with
  | int z => exact ⟨z, rfl⟩
  | null | bool | real | text | list | object => simp [isDeclared, hname] at h

/-- A setting that is declared as a number is one. -/
theorem exists_number_of_isDeclared {name : String} {d : Document} (h : isDeclared name d = true)
    (hname : name ∈ numberNames) : ∃ n : Number, d = n.toDocument := by
  cases d with
  | int z => exact ⟨.int z, rfl⟩
  | real x => exact ⟨.real x, rfl⟩
  | null | bool | text | list | object => simp [isDeclared, hname] at h

/-- The peers are declared as a list. -/
theorem exists_list_of_isDeclared {d : Document} (h : isDeclared "peers" d = true) :
    ∃ items, d = .list items := by
  cases d with
  | list items => exact ⟨items, rfl⟩
  | null | bool | int | real | text | object => simp [isDeclared] at h

/-- The standard settings are of their kinds. -/
theorem declared_default : Declared {} := by
  show ∀ m ∈ settings {}, isDeclared m.1 m.2 = true
  decide +kernel

/-- A configuration is of its kinds if the document that it is read from is. -/
theorem declared_of_ofMembers {members : List (String × Document)} (h : ofMembers members = .ok c)
    (hmembers : ∀ m ∈ members, isDeclared m.1 m.2 = true) : c.Declared := by
  intro m hm
  rw [(settings_of_ofMembers h).1] at hm
  rcases Document.mem_putAll hm with hstandard | hgiven
  · exact declared_default m hstandard
  · exact hmembers m (List.mem_of_mem_filter hgiven)

/-- The five settings with bounds are whole numbers. -/
theorem Declared.whole (h : c.Declared) : ∃ low high size samples least : Int,
    c.minPoll = .int low ∧ c.maxPoll = .int high ∧ c.rateSize = .int size ∧
      c.maxSamples = .int samples ∧ c.goodFilter = .int least := by
  simp only [Declared, settings_eq, List.forall_mem_cons] at h
  obtain ⟨-, hlow, hhigh, hsamples, -, -, hleast, -, -, -, -, hsize, -⟩ := h
  obtain ⟨low, hlow⟩ := exists_int_of_isDeclared hlow (by decide)
  obtain ⟨high, hhigh⟩ := exists_int_of_isDeclared hhigh (by decide)
  obtain ⟨samples, hsamples⟩ := exists_int_of_isDeclared hsamples (by decide)
  obtain ⟨least, hleast⟩ := exists_int_of_isDeclared hleast (by decide)
  obtain ⟨size, hsize⟩ := exists_int_of_isDeclared hsize (by decide)
  exact ⟨low, high, size, samples, least, hlow, hhigh, hsize, hsamples, hleast⟩

/-- The deviation, the time for an answer and the interval are numbers. -/
theorem Declared.numbers (h : c.Declared) : ∃ maxStd queryTimeout rateInterval : Number,
    c.maxStd = maxStd.toDocument ∧ c.queryTimeout = queryTimeout.toDocument ∧
      c.rateInterval = rateInterval.toDocument := by
  simp only [Declared, settings_eq, List.forall_mem_cons] at h
  obtain ⟨-, -, -, -, hstd, htimeout, -, -, -, -, -, -, hinterval, -⟩ := h
  obtain ⟨maxStd, hstd⟩ := exists_number_of_isDeclared hstd (by decide)
  obtain ⟨queryTimeout, htimeout⟩ := exists_number_of_isDeclared htimeout (by decide)
  obtain ⟨rateInterval, hinterval⟩ := exists_number_of_isDeclared hinterval (by decide)
  exact ⟨maxStd, queryTimeout, rateInterval, hstd, htimeout, hinterval⟩

/-- The peers are a list. -/
theorem Declared.peers (h : c.Declared) : ∃ names, c.peers = .list names :=
  exists_list_of_isDeclared (h ("peers", c.peers) List.mem_cons_self)

/-! ## Clamping whole numbers -/

/-- A whole number is raised to a lower bound. -/
theorem atLeast_int (bound n : Int) : atLeast bound (.int n) = .ok (.int (max n bound)) := by
  show Except.ok (if (Number.int n).lt (.int bound) then Document.int bound else .int n) = _
  by_cases hlt : n < bound
  · rw [if_pos (Number.lt_int.2 hlt), Int.max_eq_right (Int.le_of_lt hlt)]
  · rw [if_neg (by rwa [Number.lt_int]), Int.max_eq_left (Int.not_lt.1 hlt)]

/-- A whole number is cut to an upper bound. -/
theorem atMost_int (bound n : Int) : atMost bound (.int n) = .ok (.int (min n bound)) := by
  show Except.ok (if (Number.int bound).lt (.int n) then Document.int bound else .int n) = _
  by_cases hlt : bound < n
  · rw [if_pos (Number.lt_int.2 hlt), Int.min_eq_right (Int.le_of_lt hlt)]
  · rw [if_neg (by rwa [Number.lt_int]), Int.min_eq_left (Int.not_lt.1 hlt)]

/-- Whole bounds of the trust levels are brought in order. -/
theorem clampPolls_int (low high : Int) : clampPolls (.int low) (.int high) =
    .ok (.int (lowerBound low), .int (upperBound low high)) := by
  simp only [clampPolls, atLeast_int, atMost_int, Document.numberFor, Document.number?, bind,
    Except.bind, pure, Except.pure, Number.lt_int, upperBound, lowerBound]
  by_cases hhighest : highestTrust < max low lowestTrust
  · rw [if_pos hhighest, Int.min_eq_left (Int.le_of_lt hhighest),
      Int.max_eq_left (Int.min_le_right ..)]
  · rw [if_neg hhighest, Int.min_eq_right (Int.not_lt.1 hhighest)]
    by_cases horder : min high highestTrust < max low lowestTrust
    · rw [if_pos horder, Int.max_eq_left (Int.le_of_lt horder)]
    · rw [if_neg horder, Int.max_eq_right (Int.not_lt.1 horder)]

/-- A configuration of whole numbers is clamped. -/
theorem clamp_of_whole {low high size samples least : Int} (hlow : c.minPoll = .int low)
    (hhigh : c.maxPoll = .int high) (hsize : c.rateSize = .int size)
    (hsamples : c.maxSamples = .int samples) (hleast : c.goodFilter = .int least) :
    c.clamp = .ok { c with
      minPoll := .int (lowerBound low)
      maxPoll := .int (upperBound low high)
      rateSize := .int (max size 0)
      maxSamples := .int (max samples 1)
      goodFilter := .int (max least 1) } := by
  unfold clamp
  rw [hlow, hhigh, hsize, hsamples, hleast, clampPolls_int, atLeast_int, atLeast_int, atLeast_int]
  rfl

/-- The five settings with bounds are whole numbers within these. -/
structure InBounds (c : Config) : Prop where
  polls : ∃ low high : Int, c.minPoll = .int low ∧ c.maxPoll = .int high ∧
    lowestTrust ≤ low ∧ low ≤ high ∧ high ≤ highestTrust
  rateSize : ∃ size : Int, c.rateSize = .int size ∧ 0 ≤ size
  maxSamples : ∃ samples : Int, c.maxSamples = .int samples ∧ 1 ≤ samples
  goodFilter : ∃ least : Int, c.goodFilter = .int least ∧ 1 ≤ least

/-- A configuration within the bounds is clamped to itself. -/
theorem InBounds.clamp (h : c.InBounds) : c.clamp = .ok c := by
  obtain ⟨⟨low, high, hlow, hhigh, hlowest, horder, hhighest⟩, ⟨size, hsize, hnatural⟩,
    ⟨samples, hsamples, hsome⟩, least, hleast, hone⟩ := h
  have hlower : lowerBound low = low := by
    unfold lowerBound
    omega
  have hupper : upperBound low high = high := by
    rw [upperBound, hlower]
    omega
  rw [clamp_of_whole hlow hhigh hsize hsamples hleast, hlower, hupper, Int.max_eq_left hnatural,
    Int.max_eq_left hsome, Int.max_eq_left hone, ← hlow, ← hhigh, ← hsize, ← hsamples, ← hleast]

/-- A configuration of whole numbers is clamped into the bounds, and nothing else changes. -/
theorem Declared.clamp (h : c.Declared) : ∃ minPoll maxPoll rateSize maxSamples goodFilter,
    c.clamp = .ok { c with minPoll, maxPoll, rateSize, maxSamples, goodFilter } ∧
      InBounds { c with minPoll, maxPoll, rateSize, maxSamples, goodFilter } := by
  obtain ⟨low, high, size, samples, least, hlow, hhigh, hsize, hsamples, hleast⟩ := h.whole
  refine ⟨_, _, _, _, _, clamp_of_whole hlow hhigh hsize hsamples hleast,
    ⟨_, _, rfl, rfl, ?_, ?_, ?_⟩, ⟨_, rfl, ?_⟩, ⟨_, rfl, ?_⟩, ⟨_, rfl, ?_⟩⟩
  · have hconstants : lowestTrust ≤ highestTrust := by decide
    unfold lowerBound
    omega
  · exact Int.le_max_left ..
  · unfold upperBound lowerBound
    omega
  · exact Int.le_max_right ..
  · exact Int.le_max_right ..
  · exact Int.le_max_right ..

/-- Settings within the bounds are of their kinds, so clamping keeps the kinds. -/
theorem Declared.of_inBounds (h : c.Declared)
    {minPoll maxPoll rateSize maxSamples goodFilter : Document}
    (hbounds : InBounds { c with minPoll, maxPoll, rateSize, maxSamples, goodFilter }) :
    Declared { c with minPoll, maxPoll, rateSize, maxSamples, goodFilter } := by
  obtain ⟨⟨_, _, rfl, rfl, -⟩, ⟨_, rfl, -⟩, ⟨_, rfl, -⟩, _, rfl, -⟩ := hbounds
  simp only [Declared, settings_eq, List.forall_mem_cons] at h ⊢
  obtain ⟨hpeers, -, -, -, hstd, htimeout, -, hforce, hdry, hlisten, hcidr, -, hrest⟩ := h
  exact ⟨hpeers, rfl, rfl, rfl, hstd, htimeout, rfl, hforce, hdry, hlisten, hcidr, rfl, hrest⟩

/-- The pace takes bounds of the trust levels that are within the standard table of waits. -/
theorem InBounds.pace (h : c.InBounds) (stableOffset retryWait : Binary64) :
    ∃ pace, Pace.make? c.minPoll c.maxPoll standardWaits stableOffset retryWait = .ok pace := by
  obtain ⟨low, high, hlow, hhigh, hlowest, horder, hhighest⟩ := h.polls
  have hlength : (standardWaits.length : Int) + lowestTrust = highestTrust + 1 := by decide
  have hinside : high < standardWaits.length + lowestTrust := by omega
  rw [hlow, hhigh]
  simp only [Pace.make?, Document.numberFor, Document.number?]
  rw [dif_pos ⟨Number.le_int.2 hlowest, Number.le_int.2 horder⟩, dif_pos (Number.lt_int.2 hinside)]
  exact ⟨_, rfl⟩

/-! ## Configurations without problems -/

/-- A name is set. -/
theorem IsName.isSet {d : Document} (h : IsName d) : d.isSet = true := by
  obtain ⟨s, rfl, hstrip⟩ := h
  refine decide_eq_true fun hempty => hstrip ?_
  rw [hempty]
  rfl

/-- No name is blank exactly if all are names. -/
theorem anyBlank_eq_false_iff {names : List Document} :
    anyBlank names = .ok false ↔ ∀ name ∈ names, IsName name := by
  induction names with
  | nil => exact ⟨fun _ _ h => absurd h List.not_mem_nil, fun _ => rfl⟩
  | cons first rest ih =>
    rw [List.forall_mem_cons, ← ih]
    by_cases hset : first.isSet = true
    · cases first with
      | text s =>
        rw [anyBlank_text hset]
        by_cases hblank : Text.strip s = ""
        · rw [if_pos hblank]
          constructor
          · intro h
            cases h
          · rintro ⟨⟨_, heq, hstrip⟩, -⟩
            cases heq
            exact absurd hblank hstrip
        · rw [if_neg hblank]
          exact ⟨fun h => ⟨⟨s, rfl, hblank⟩, h⟩, And.right⟩
      | null | bool | int | real | list | object =>
        rw [anyBlank, if_pos hset]
        constructor
        · intro h
          cases h
        · rintro ⟨⟨_, heq, -⟩, -⟩
          cases heq
    · rw [anyBlank, if_neg hset]
      constructor
      · intro h
        cases h
      · intro h
        exact absurd h.1.isSet hset

/-- The peers are a list of names, and there is one. -/
def HasPeers (d : Document) : Prop :=
  ∃ names, d = .list names ∧ names ≠ [] ∧ ∀ name ∈ names, IsName name

/-- A list of peers has no problems exactly if it holds names and is not empty. -/
theorem peerProblems_eq_nil_iff {names : List Document} :
    peerProblems (.list names) = .ok [] ↔ HasPeers (.list names) := by
  have hpeers : HasPeers (.list names) ↔ names ≠ [] ∧ anyBlank names = .ok false := by
    rw [anyBlank_eq_false_iff]
    constructor
    · rintro ⟨_, heq, h⟩
      cases heq
      exact h
    · exact fun h => ⟨names, rfl, h⟩
  rw [hpeers]
  show (anyBlank names >>= fun blank => _) = _ ↔ _
  cases hblank : anyBlank names with
  | error fault => simp [bind, Except.bind]
  | ok blank =>
    cases names <;> cases blank <;> simp [bind, Except.bind, pure, Except.pure, problemIf,
      Document.isSet]

/-- A configuration has no problems exactly if its peers and its endpoints have none, and the other
settings do not compare to be too small. -/
theorem problems_eq_nil_iff {maxStd queryTimeout rateInterval : Number}
    (hstd : c.maxStd = maxStd.toDocument) (htimeout : c.queryTimeout = queryTimeout.toDocument)
    (hinterval : c.rateInterval = rateInterval.toDocument) :
    c.problems = .ok [] ↔ peerProblems c.peers = .ok [] ∧
      (maxStd.le (.int 0) = false ∧ queryTimeout.le (.int 0) = false ∧
        rateInterval.lt (.int 0) = false) ∧
      endpointProblems "listen" c.listen = .ok [] ∧
      endpointProblems "metric" c.metric = .ok [] := by
  unfold problems
  simp only [hstd, htimeout, hinterval, Document.numberFor, Number.number?_toDocument]
  cases peerProblems c.peers with
  | error fault => simp [bind, Except.bind]
  | ok peers =>
    cases endpointProblems "listen" c.listen with
    | error fault => simp [bind, Except.bind]
    | ok listen =>
      cases endpointProblems "metric" c.metric with
      | error fault => simp [bind, Except.bind]
      | ok metric =>
        simp [bind, Except.bind, pure, Except.pure, problemIf, and_assoc]

/-- An endpoint has no problems exactly if it holds a colon when it is set. -/
theorem endpointProblems_eq_nil_iff {name : String} {d : Document} :
    endpointProblems name d = .ok [] ↔ (d.isSet = true → hasColon d = .ok true) := by
  unfold endpointProblems
  by_cases hset : d.isSet = true
  · rw [if_pos hset]
    cases hasColon d with
    | error fault => simp [bind, Except.bind, hset]
    | ok colon => cases colon <;> simp [bind, Except.bind, pure, Except.pure, problemIf, hset]
  · rw [if_neg hset]
    exact ⟨fun _ h => absurd h hset, fun _ => rfl⟩

/-- The configuration is within its bounds, but for the deviation, the time for an answer and the
interval, each of which may be not-a-number instead. -/
structure Bounded (c : Config) : Prop where
  inBounds : c.InBounds
  peers : HasPeers c.peers
  maxStd : ∃ n : Number, c.maxStd = n.toDocument ∧ ((Number.int 0).lt n = true ∨ n = .real .nan)
  queryTimeout : ∃ n : Number, c.queryTimeout = n.toDocument ∧
    ((Number.int 0).lt n = true ∨ n = .real .nan)
  rateInterval : ∃ n : Number, c.rateInterval = n.toDocument ∧
    ((Number.int 0).le n = true ∨ n = .real .nan)
  endpoints : ∀ d ∈ [c.listen, c.metric], d.isSet = true → hasColon d = .ok true

/-- A configuration of its kinds that is clamped has no problems exactly if it is within its
bounds. -/
theorem Declared.problems_iff (h : c.Declared) (hbounds : c.InBounds) :
    c.problems = .ok [] ↔ c.Bounded := by
  obtain ⟨maxStd, queryTimeout, rateInterval, hstd, htimeout, hinterval⟩ := h.numbers
  obtain ⟨names, hnames⟩ := h.peers
  rw [problems_eq_nil_iff hstd htimeout hinterval, hnames, peerProblems_eq_nil_iff,
    Number.le_zero_eq_false_iff, Number.le_zero_eq_false_iff, Number.lt_zero_eq_false_iff,
    endpointProblems_eq_nil_iff, endpointProblems_eq_nil_iff]
  constructor
  · rintro ⟨hpeers, ⟨hstdPos, htimeoutPos, hintervalPos⟩, hlisten, hmetric⟩
    exact ⟨hbounds, hnames ▸ hpeers, ⟨_, hstd, hstdPos⟩, ⟨_, htimeout, htimeoutPos⟩,
      ⟨_, hinterval, hintervalPos⟩, by simpa using ⟨hlisten, hmetric⟩⟩
  · intro hbounded
    obtain ⟨n, hn, hstdPos⟩ := hbounded.maxStd
    obtain rfl := Number.toDocument_inj (hstd.symm.trans hn)
    obtain ⟨n, hn, htimeoutPos⟩ := hbounded.queryTimeout
    obtain rfl := Number.toDocument_inj (htimeout.symm.trans hn)
    obtain ⟨n, hn, hintervalPos⟩ := hbounded.rateInterval
    obtain rfl := Number.toDocument_inj (hinterval.symm.trans hn)
    obtain ⟨hlisten, hmetric⟩ : (c.listen.isSet = true → hasColon c.listen = .ok true) ∧
        (c.metric.isSet = true → hasColon c.metric = .ok true) := by
      simpa using hbounded.endpoints
    exact ⟨hnames ▸ hbounded.peers, ⟨hstdPos, htimeoutPos, hintervalPos⟩, hlisten, hmetric⟩

end Config

/-- The settings that a document gives are of the kinds that they are declared with. -/
def Document.DeclaresKinds (d : Document) : Prop :=
  ∀ entries members, d.entries = .ok entries → namedEntries entries = .ok members →
    ∀ m ∈ ofPairs members, Config.isDeclared m.1 m.2 = true

/-- The configuration of such a document has settings of these kinds. -/
theorem Config.declared_of_ofDocument {d : Document} {c : Config} (h : ofDocument d = .ok c)
    (hkinds : d.DeclaresKinds) : c.Declared := by
  unfold ofDocument at h
  split at h
  · cases h
  · rename_i entries hentries
    split at h
    · cases h
    · rename_i config hconfig
      cases h
      obtain ⟨members, hnamed, hmembers⟩ := bind_eq_ok.1 hconfig
      exact declared_of_ofMembers hmembers (hkinds entries members hentries hnamed)

namespace Program

/-! ## The configuration that is given and the one that is accepted -/

/-- The configuration of the options and the file that they name, before it is checked. -/
def given (o : Options) (disk : Disk) : Except Trouble Config :=
  match Options.text? o.config with
  | none => .ok (applyOptions {} o)
  | some path => (Config.ofFile disk path).map fun config => applyOptions config o

/-- The configuration that is given is checked. -/
theorem configure_eq (o : Options) (disk : Disk) (w : World) :
    (configure o disk w).1 = (given o disk).bind checked := by
  unfold configure given
  cases Options.text? o.config with
  | none => simp only [Except.bind]
  | some path =>
    simp only [Config.load]
    cases Config.ofFile disk path <;> rfl

/-- The document in the file that the options name, if they name one that can be read, gives its
settings the kinds that they are declared with. -/
def FileDeclaresKinds (o : Options) (disk : Disk) : Prop :=
  ∀ path content d, Options.text? o.config = some path → disk.contentAt path = .ok content →
    Config.documentOfBytes path content = .ok d → d.DeclaresKinds

/-- The options leave the settings of their kinds. -/
theorem declared_applyOptions {c : Config} (h : c.Declared) (o : Options) :
    (applyOptions c o).Declared := by
  simp only [Config.Declared, Config.settings_eq, List.forall_mem_cons] at h ⊢
  obtain ⟨hpeers, hlow, hhigh, hsamples, hstd, htimeout, hleast, -, -, -, hcidr, hsize, hinterval,
    -⟩ := h
  have hfree {name : String} (d : Document)
      (hname : name ∉ "peers" :: Config.wholeNames ++ Config.numberNames) :
      Config.isDeclared name d = true := by
    cases d <;> simp_all [Config.isDeclared]
  refine ⟨?_, hlow, hhigh, hsamples, hstd, htimeout, hleast, hfree _ (by decide),
    hfree _ (by decide), hfree _ (by decide), hcidr, hsize, hinterval, hfree _ (by decide), nofun⟩
  -- The peers of the options are a list, too.
  show Config.isDeclared "peers" (if o.peers.isEmpty then c.peers else _) = true
  cases o.peers.isEmpty with
  | true => exact hpeers
  | false => rfl

/-- The settings that are given are of their kinds. -/
theorem declared_of_given {o : Options} {disk : Disk} (hfile : FileDeclaresKinds o disk)
    {start : Config} (h : given o disk = .ok start) : start.Declared := by
  unfold given at h
  cases hpath : Options.text? o.config with
  | none =>
    rw [hpath] at h
    rw [← Except.ok.inj h]
    exact declared_applyOptions Config.declared_default o
  | some path =>
    rw [hpath] at h
    cases hload : Config.ofFile disk path with
    | error trouble =>
      simp only [hload] at h
      cases h
    | ok config =>
      simp only [hload] at h
      cases h
      refine declared_applyOptions ?_ o
      unfold Config.ofFile at hload
      split at hload
      · cases hload
      · split at hload
        · cases hload
        · rename_i content hcontent
          obtain ⟨d, hd, hconfig⟩ := bind_eq_ok.1 hload
          exact Config.declared_of_ofDocument hconfig (hfile path content d hpath hcontent hd)

/-- A checked configuration is the clamped one, if that has no problems. -/
theorem checked_eq_ok {start c : Config} :
    checked start = .ok c ↔ start.clamp = .ok c ∧ c.problems = .ok [] := by
  unfold checked
  cases start.clamp with
  | error fault => simp
  | ok clamped =>
    simp only [Except.ok.injEq]
    cases hproblems : clamped.problems with
    | error fault =>
      refine ⟨nofun, ?_⟩
      rintro ⟨rfl, h⟩
      rw [hproblems] at h
      cases h
    | ok problems =>
      cases problems with
      | nil =>
        refine ⟨fun h => ?_, fun h => congrArg Except.ok h.1⟩
        cases h
        exact ⟨rfl, hproblems⟩
      | cons first rest =>
        refine ⟨nofun, ?_⟩
        rintro ⟨rfl, h⟩
        rw [hproblems] at h
        cases h

/-- When the settings of the file have the kinds that they are declared with, an accepted
configuration is within its bounds, with not-a-number in place of a number at worst; it is clamped
to itself and makes a pace. It differs from the given one in the five settings that are clamped at
most, and if these are within their bounds as they are given, in none. A given configuration that is
within its bounds is accepted as it is. -/
theorem bounded_of_configure (o : Options) (disk : Disk) (w : World)
    (hfile : FileDeclaresKinds o disk) :
    (∀ c, (configure o disk w).1 = .ok c → c.Bounded ∧ c.clamp = .ok c ∧
      (∀ stableOffset retryWait, ∃ pace,
        Pace.make? c.minPoll c.maxPoll standardWaits stableOffset retryWait = .ok pace) ∧
      ∃ start, given o disk = .ok start ∧
        (∃ minPoll maxPoll rateSize maxSamples goodFilter,
          c = { start with minPoll, maxPoll, rateSize, maxSamples, goodFilter }) ∧
        (start.InBounds → c = start)) ∧
    ∀ start, given o disk = .ok start → start.Bounded → (configure o disk w).1 = .ok start := by
  rw [configure_eq]
  refine ⟨fun c hc => ?_, fun start hstart hbounded => ?_⟩
  · obtain ⟨start, hstart, hchecked⟩ := bind_eq_ok.1 hc
    obtain ⟨hclamp, hproblems⟩ := checked_eq_ok.1 hchecked
    have hdeclared := declared_of_given hfile hstart
    obtain ⟨minPoll, maxPoll, rateSize, maxSamples, goodFilter, hclamped, hinBounds⟩ :=
      hdeclared.clamp
    obtain rfl := Except.ok.inj (hclamped.symm.trans hclamp)
    have hclampedDeclared := hdeclared.of_inBounds hinBounds
    exact ⟨(hclampedDeclared.problems_iff hinBounds).1 hproblems, hinBounds.clamp, hinBounds.pace,
      start, hstart, ⟨_, _, _, _, _, rfl⟩,
      fun hstartBounds => Except.ok.inj (hclamp.symm.trans hstartBounds.clamp)⟩
  · have hdeclared := declared_of_given hfile hstart
    rw [hstart]
    exact checked_eq_ok.2 ⟨hbounded.inBounds.clamp,
      (hdeclared.problems_iff hbounded.inBounds).2 hbounded⟩

/-- A file whose bounds of the trust levels are above the highest and out of order, whose size is
negative, and whose deviation is not-a-number. -/
def looseSettings : ByteArray :=
  ("\x7b\"peers\": [\"a\"], \"min_poll\": 20, \"max_poll\": 3, " ++
    "\"rate_size\": -5, \"max_std\": NaN\x7d").toUTF8

/-- The settings of this file are of their kinds, and the configuration is accepted: the bounds of
the trust levels become the highest level, and the size zero. -/
theorem bounded_of_looseSettings : ∃ c, configured looseSettings = .ok c ∧
    c.minPoll = .int 10 ∧ c.maxPoll = .int 10 ∧ c.rateSize = .int 0 ∧ c.Bounded := by
  have hread : (Config.documentOfBytes "q.json" looseSettings).toOption =
      some (.object [("peers", .list [.text "a"]), ("min_poll", .int 20), ("max_poll", .int 3),
        ("rate_size", .int (-5)), ("max_std", .real .nan)]) := by decide +kernel
  have hfile : FileDeclaresKinds { config := some (.text "q.json") }
      (Disk.ofFiles [("q.json", looseSettings)]) := by
    intro path content d hpath hcontent hd
    obtain rfl : "q.json" = path := Option.some.inj hpath
    have hstored : (Disk.ofFiles [("q.json", looseSettings)]).contentAt "q.json" =
        .ok looseSettings := eq_ok_of_toOption (by decide +kernel)
    obtain rfl := Except.ok.inj (hstored.symm.trans hcontent)
    obtain rfl := Except.ok.inj ((eq_ok_of_toOption hread).symm.trans hd)
    intro entries members hentries hnamed
    cases hentries
    cases hnamed
    decide +kernel
  have hsettings : ((configured looseSettings).toOption.map fun c =>
      (c.minPoll, c.maxPoll, c.rateSize)) = some (.int 10, .int 10, .int 0) := by decide +kernel
  obtain ⟨c, hc, hvalues⟩ := Option.map_eq_some_iff.1 hsettings
  have haccepted : configured looseSettings = .ok c := eq_ok_of_toOption hc
  obtain ⟨hlow, hhigh, hsize⟩ :
      c.minPoll = .int 10 ∧ c.maxPoll = .int 10 ∧ c.rateSize = .int 0 := by simpa using hvalues
  exact ⟨c, haccepted, hlow, hhigh, hsize,
    ((bounded_of_configure _ _ {} hfile).1 c haccepted).1⟩

/-- A deviation that is not-a-number is accepted, though it is not above zero. -/
theorem unbounded_of_undefinedDeviation :
    let settings := "\x7b\"peers\": [\"a\"], \"max_std\": NaN\x7d".toUTF8
    (configured settings).toOption.map (·.maxStd) = some (.real .nan) ∧
      (Number.int 0).lt (.real .nan) = false := by
  decide +kernel

end Program

end Concord
