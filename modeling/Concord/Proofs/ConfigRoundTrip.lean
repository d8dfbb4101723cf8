import Concord.Proofs.ConfigMembers
import Concord.Proofs.DocumentFile

/-!
# Configurations read from their files

A setting is a document that is kept as it is, so a configuration is written as its members and
taken again from them one by one. What remains is that these members can be written and read: they
come from the document that was read, or are standard settings, and the group for the journal is the
only one that is set a level further down.

The main statement is `Config.same_after_saving`: which objects are configurations, and that a
configuration is loaded from its file as it was saved.
-/

namespace Concord

/-! ## Documents that can be written -/

namespace Document

variable {levels : Nat}

/-- A document that can be written and read inside the given number of levels. -/
def Fits (levels : Nat) (d : Document) : Prop := d.Everywhere Faithful ∧ d.depth ≤ levels

/-- A text fits. -/
theorem fits_text (s : String) : (text s).Fits levels := ⟨⟨trivial, trivial⟩, Nat.zero_le _⟩

/-- A whole number of few digits fits. -/
theorem fits_int {z : Int} (h : (Nat.toDigits 10 z.natAbs).length ≤ Text.maxDigits) :
    (int z).Fits levels := ⟨⟨h, trivial⟩, Nat.zero_le _⟩

/-- A real number that is a number fits. -/
theorem fits_real {x : Binary64} (h : x.isNaN = false) : (real x).Fits levels :=
  ⟨⟨trivial, h⟩, Nat.zero_le _⟩

/-- The items of a list are a level further down. -/
theorem depth_of_mem_items {items : List Document} {item : Document} (h : item ∈ items) :
    item.depth ≤ depthOfItems items := by
  induction items with
  | nil => cases h
  | cons other items ih =>
    rw [depthOfItems]
    rcases List.mem_cons.1 h with rfl | h
    · exact Nat.le_max_left ..
    · exact Nat.le_trans (ih h) (Nat.le_max_right ..)

/-- The values of an object are a level further down. -/
theorem depth_of_mem_members {members : List (String × Document)} {member : String × Document}
    (h : member ∈ members) : member.2.depth ≤ depthOfMembers members := by
  induction members with
  | nil => cases h
  | cons other members ih =>
    rw [depthOfMembers]
    rcases List.mem_cons.1 h with rfl | h
    · exact Nat.le_max_left ..
    · exact Nat.le_trans (ih h) (Nat.le_max_right ..)

/-- The values of an object are on no more levels than allowed. -/
theorem depthOfMembers_le {members : List (String × Document)}
    (h : ∀ m ∈ members, m.2.depth ≤ levels) : depthOfMembers members ≤ levels := by
  induction members with
  | nil => exact Nat.zero_le _
  | cons other members ih =>
    obtain ⟨hfirst, hrest⟩ := List.forall_mem_cons.1 h
    rw [depthOfMembers]
    exact Nat.max_le.2 ⟨hfirst, ih hrest⟩

/-- The items of a list fit a level further down. -/
theorem Fits.items {items : List Document} (h : (list items).Fits (levels + 1)) :
    ∀ item ∈ items, item.Fits levels := by
  intro item hitem
  have hdepth := Nat.le_of_succ_le_succ h.2
  exact ⟨everywhereItems_iff.1 h.1.2 item hitem, Nat.le_trans (depth_of_mem_items hitem) hdepth⟩

/-- The values of an object fit a level further down. -/
theorem Fits.members {members : List (String × Document)} (h : (object members).Fits (levels + 1)) :
    ∀ m ∈ members, m.2.Fits levels := by
  intro member hmember
  have hdepth := Nat.le_of_succ_le_succ h.2
  exact ⟨everywhereMembers_iff.1 h.1.2 member hmember,
    Nat.le_trans (depth_of_mem_members hmember) hdepth⟩

/-- An object fits when its names are distinct and its values fit. -/
theorem fits_object {members : List (String × Document)} (hnames : (members.map (·.1)).Nodup)
    (h : ∀ m ∈ members, m.2.Fits levels) : (object members).Fits (levels + 1) :=
  ⟨⟨⟨hnames, trivial⟩, everywhereMembers_iff.2 fun m hm => (h m hm).1⟩,
    Nat.succ_le_succ (depthOfMembers_le fun m hm => (h m hm).2)⟩

/-- A value of few levels fits more. -/
theorem Fits.mono {more : Nat} {d : Document} (h : d.Fits levels) (hle : levels ≤ more) :
    d.Fits more := ⟨h.1, Nat.le_trans h.2 hle⟩

end Document

/-! ## Configurations that can be written -/

/-- All settings of the journal fit. -/
def LogConfig.Fits (levels : Nat) (c : LogConfig) : Prop := ∀ m ∈ c.members, m.2.Fits levels

namespace Config

variable {levels : Nat}

/-- All settings fit, those of the journal one level further down. -/
def Fits (levels : Nat) (c : Config) : Prop :=
  (∀ m ∈ c.settings, m.2.Fits (levels + 1)) ∧ c.log.Fits levels

/-- The settings in their order. -/
theorem settings_eq (c : Config) : c.settings =
    [("peers", c.peers), ("min_poll", c.minPoll), ("max_poll", c.maxPoll),
      ("max_samples", c.maxSamples), ("max_std", c.maxStd), ("query_timeout", c.queryTimeout),
      ("good_filter", c.goodFilter), ("force_update", c.forceUpdate), ("dry_run", c.dryRun),
      ("listen", c.listen), ("drop_cidr", c.dropCidr), ("rate_size", c.rateSize),
      ("rate_interval", c.rateInterval), ("metric", c.metric)] := rfl

/-- The standard settings of the journal fit. -/
theorem fits_defaultLog : LogConfig.Fits levels {} := by
  simp only [LogConfig.Fits, LogConfig.members, List.forall_mem_cons]
  exact ⟨Document.fits_text _, ⟨⟨trivial, trivial⟩, Nat.zero_le _⟩, Document.fits_text _,
    Document.fits_int (by decide), Document.fits_int (by decide), nofun⟩

/-- The standard peers fit. -/
theorem fits_standardPeers : (Document.list (standardPeers.map .text)).Fits (levels + 1) := by
  refine ⟨⟨⟨trivial, trivial⟩, Document.everywhereItems_iff.2 fun item hitem => ?_⟩, ?_⟩
  · obtain ⟨name, -, rfl⟩ := List.mem_map.1 hitem
    exact ⟨trivial, trivial⟩
  · exact Nat.succ_le_succ (Nat.zero_le _)

/-- The standard settings fit. -/
theorem fits_default : ∀ m ∈ settings {}, m.2.Fits (levels + 1) := by
  have hbool : (Document.bool false).Fits (levels + 1) := ⟨⟨trivial, trivial⟩, Nat.zero_le _⟩
  have hempty : (Document.list []).Fits (levels + 1) :=
    ⟨⟨⟨trivial, trivial⟩, trivial⟩, Nat.succ_le_succ (Nat.zero_le _)⟩
  have htwo : (Document.real (.ofInt 2)).Fits (levels + 1) :=
    Document.fits_real (by decide +kernel)
  have hstd : (Document.real (.ofDecimal false 5 (-2))).Fits (levels + 1) :=
    Document.fits_real (by decide +kernel)
  simp only [settings_eq, List.forall_mem_cons]
  exact ⟨fits_standardPeers, Document.fits_int (by decide), Document.fits_int (by decide),
    Document.fits_int (by decide), hstd, htwo, Document.fits_int (by decide), hbool, hbool,
    Document.fits_text _, hempty, Document.fits_int (by decide), htwo, Document.fits_text _, nofun⟩

/-- The value of a pair fits where the pair fits. -/
theorem fits_pairOf {index : Nat} {entry name value : Document}
    (h : Document.pairOf index entry = .ok (name, value)) (hentry : entry.Fits levels) :
    value.Fits levels := by
  unfold Document.pairOf at h
  split at h
  · cases h
    obtain ⟨below, rfl⟩ : ∃ k, levels = k + 1 := by
      have hdepth := hentry.2
      rw [Document.depth] at hdepth
      exact ⟨levels - 1, by omega⟩
    exact (hentry.items _ (by simp)).mono (Nat.le_succ _)
  · cases h
  · split at h
    · cases h
      exact Document.fits_text _
    · cases h
  · cases h
    exact Document.fits_text _
  · cases h
  · cases h

/-- The values of pairs fit where the pairs fit. -/
theorem fits_pairsFrom {index : Nat} {items : List Document} {pairs : List (Document × Document)}
    (h : Document.pairsFrom index items = .ok pairs) (hitems : ∀ item ∈ items, item.Fits levels) :
    ∀ pair ∈ pairs, pair.2.Fits levels := by
  induction items generalizing index pairs with
  | nil =>
    rw [Document.pairsFrom] at h
    cases h
    exact nofun
  | cons item items ih =>
    obtain ⟨hfirst, hrest⟩ := List.forall_mem_cons.1 hitems
    rw [Document.pairsFrom] at h
    obtain ⟨⟨name, value⟩, hpair, h⟩ := bind_eq_ok.1 h
    dsimp only at h
    split at h
    · obtain ⟨others, hothers, h⟩ := bind_eq_ok.1 h
      cases h
      exact List.forall_mem_cons.2 ⟨fits_pairOf hpair hfirst, ih hothers hrest⟩
    · cases h

/-- The entries of a document fit a level further down. -/
theorem fits_entries {d : Document} {entries : List (Document × Document)}
    (h : d.entries = .ok entries) (hd : d.Fits (levels + 1)) : ∀ e ∈ entries, e.2.Fits levels := by
  unfold Document.entries at h
  split at h
  · cases h
    intro e he
    obtain ⟨m, hm, rfl⟩ := List.mem_map.1 he
    exact hd.members m hm
  · exact fits_pairsFrom h hd.items
  · refine fits_pairsFrom h fun item hitem => ?_
    obtain ⟨c, -, rfl⟩ := List.mem_map.1 hitem
    exact Document.fits_text _
  · cases h

/-- The settings of the journal that a document that fits gives fit a level further down. -/
theorem fits_logMembers {d : Document} (h : d.Fits (levels + 1)) :
    ∀ m ∈ logMembers d, m.2.Fits levels := by
  unfold logMembers
  split
  · exact h.members
  · exact nofun

/-- Entries whose names are texts keep their values. -/
theorem mem_of_namedEntries {entries : List (Document × Document)}
    {members : List (String × Document)} (h : Document.namedEntries entries = .ok members) :
    ∀ m ∈ members, ∃ e ∈ entries, e.2 = m.2 := by
  induction entries generalizing members with
  | nil =>
    rw [Document.namedEntries] at h
    cases h
    exact fun m hm => absurd hm List.not_mem_nil
  | cons entry entries ih =>
    unfold Document.namedEntries at h
    split at h
    · cases h
      exact fun m hm => absurd hm List.not_mem_nil
    · rename_i name value rest heq
      obtain ⟨rfl, rfl⟩ := List.cons.inj heq
      cases hrest : Document.namedEntries entries with
      | error fault =>
        rw [hrest] at h
        cases h
      | ok others =>
        rw [hrest] at h
        cases h
        intro m hm
        rcases List.mem_cons.1 hm with rfl | hm
        · exact ⟨_, List.mem_cons_self, rfl⟩
        · obtain ⟨e, he, heq⟩ := ih hrest m hm
          exact ⟨e, List.mem_cons_of_mem _ he, heq⟩
    · cases h

/-- Members that fit are put to members that fit. -/
theorem fits_putAll {standard given : List (String × Document)}
    (hstandard : ∀ m ∈ standard, m.2.Fits levels) (hgiven : ∀ m ∈ given, m.2.Fits levels) :
    ∀ m ∈ Document.putAll standard given, m.2.Fits levels :=
  fun m hm => (Document.mem_putAll hm).elim (hstandard m) (hgiven m)

/-- The configuration of members that fit fits. -/
theorem fits_ofMembers {members : List (String × Document)} {c : Config}
    (h : ofMembers members = .ok c) (hmembers : ∀ m ∈ members, m.2.Fits (levels + 1)) :
    c.Fits levels := by
  obtain ⟨hsettings, hlog⟩ := settings_of_ofMembers h
  refine ⟨?_, ?_⟩
  · rw [hsettings]
    exact fits_putAll fits_default fun m hm => hmembers m (List.mem_of_mem_filter hm)
  · unfold LogConfig.Fits
    rw [hlog]
    refine fits_putAll fits_defaultLog ?_
    cases hlookup : Document.lookup members logName with
    | none => exact nofun
    | some value => exact fits_logMembers (hmembers _ (Document.mem_of_lookup hlookup))

/-- A configuration that fits is written as a document that fits. -/
theorem Fits.toDocument {c : Config} (h : c.Fits levels) : c.toDocument.Fits (levels + 2) := by
  refine Document.fits_object c.nodup_members ?_
  have hmembers : c.members = c.settings ++ [(logName, .object c.log.members)] := rfl
  rw [hmembers, List.forall_mem_append]
  refine ⟨h.1, List.forall_mem_singleton.2 (Document.fits_object ?_ h.2)⟩
  have hnames : c.log.members.map (·.1) = LogConfig.names := rfl
  rw [hnames]
  decide

/-- The configuration of a document that fits is written as one that fits. -/
theorem fits_ofDocument {d : Document} {c : Config} (h : ofDocument d = .ok c)
    (hd : d.Fits (levels + 2)) : c.toDocument.Fits (levels + 2) := by
  unfold ofDocument at h
  split at h
  · cases h
  · rename_i entries hentries
    split at h
    · cases h
    · rename_i config hconfig
      cases h
      obtain ⟨named, hnamed, hmembers⟩ := bind_eq_ok.1 hconfig
      refine (fits_ofMembers hmembers fun m hm => ?_).toDocument
      obtain ⟨e, he, heq⟩ := mem_of_namedEntries hnamed m (Document.mem_of_mem_ofPairs hm)
      rw [← heq]
      exact fits_entries hentries hd e he

/-! ## Files -/

/-- A configuration can be written exactly if its levels are few enough. -/
theorem fileText_eq_ok {c : Config} {text : String} :
    c.fileText = .ok text ↔
      c.toDocument.depth ≤ maxDepth ∧ c.toDocument.renderIndented = text := by
  unfold fileText written
  by_cases hdepth : maxDepth < c.toDocument.depth
  · rw [if_pos hdepth]
    exact ⟨nofun, fun h => absurd h.1 (Nat.not_le.2 hdepth)⟩
  · rw [if_neg hdepth]
    exact ⟨fun h => ⟨Nat.not_lt.1 hdepth, Except.ok.inj h⟩, fun h => congrArg Except.ok h.2⟩

/-- A configuration is read again from its text, when it can be written and read. -/
theorem ofDocument_fileText {c : Config} {text : String} (path : String)
    (hfaithful : c.toDocument.Everywhere Document.Faithful) (h : c.fileText = .ok text) :
    (documentOfBytes path text.toUTF8).bind ofDocument = .ok c := by
  obtain ⟨hdepth, rfl⟩ := fileText_eq_ok.1 h
  have hlevels : c.toDocument.depth ≤ Document.maxNesting := Nat.le_trans hdepth (by decide)
  rw [documentOfBytes_renderIndented path hfaithful hlevels, Except.bind]
  exact c.ofDocument_toDocument

/-- What is loaded from a path that leads to a file is the configuration in the file. -/
theorem load_of_contentAt {disk : Disk} {path : String} {content : ByteArray} {c : Config}
    (w : World) (hpath : path.toList.contains '\x00' = false)
    (hcontent : disk.contentAt path = .ok content)
    (hc : (documentOfBytes path content).bind ofDocument = .ok c) :
    (load disk path w).1 = .ok c := by
  have hfile : ofFile disk path = .ok c := by
    unfold ofFile
    rw [hpath, hcontent]
    exact hc
  unfold load
  rw [hfile]

/-- An object is a configuration exactly if each of its names is that of a setting or of the group
for the journal, and the group is nothing or an object of such names itself; its values are put to
the standard ones as they stand. The configuration of a document that can stand in a text and holds
no not-a-number is the same after it was saved: if its levels are few enough it has a text, and from
the text, as well as from the file, it is loaded again as it was, so that its text is the same
again. -/
theorem same_after_saving :
    (∀ members : List (String × Document), (members.map (·.1)).Nodup →
      ((∃ c, ofDocument (.object members) = .ok c) ↔
        (∀ m ∈ members, m.1 ∈ names ∨ m.1 = logName) ∧
          ∀ value, (logName, value) ∈ members →
            value = .null ∨
              ∃ group, value = .object group ∧ ∀ m ∈ group, m.1 ∈ LogConfig.names) ∧
      ∀ c, ofDocument (.object members) = .ok c →
        c.settings = Document.putAll (settings {}) (members.filter (·.1 ≠ logName)) ∧
          c.log.members = Document.putAll (LogConfig.members {})
            (logMembers ((Document.lookup members logName).getD .null))) ∧
    (∀ s d, Document.read s = .ok d → d.Everywhere Document.Readable) ∧
    ∀ d c, d.Everywhere Document.Readable → d.Everywhere Document.Defined →
      ofDocument d = .ok c →
      (d.depth ≤ maxDepth → ∃ text, c.fileText = .ok text) ∧
      ∀ text, c.fileText = .ok text →
        (∀ path, ∃ again, (documentOfBytes path text.toUTF8).bind ofDocument = .ok again ∧
          again = c ∧ again.fileText = .ok text) ∧
        ∀ disk path w, (c.save disk path w).1 = .ok (disk.put path text.toUTF8) ∧
          ∀ content, path.toList.contains '\x00' = false →
            (disk.put path text.toUTF8).contentAt path = .ok content →
            (load (disk.put path text.toUTF8) path w).1 = .ok c := by
  refine ⟨fun members hnames => ⟨exists_ofDocument_iff hnames,
      fun c hc => settings_of_ofMembers ((ofDocument_object hnames).1 hc)⟩,
    fun s d hread => Document.readable_of_read hread, fun d c hreadable hdefined hc => ⟨?_, ?_⟩⟩
  · intro hdepth
    obtain ⟨levels, hlevels⟩ : ∃ levels, maxDepth = levels + 2 := ⟨494, rfl⟩
    rw [hlevels] at hdepth
    have hfits := fits_ofDocument hc ⟨Document.Everywhere.and d hreadable hdefined, hdepth⟩
    exact ⟨_, fileText_eq_ok.2 ⟨hlevels ▸ hfits.2, rfl⟩⟩
  · intro text htext
    have hdepth : d.depth ≤ d.depth + 2 := Nat.le_add_right _ 2
    have hfits := fits_ofDocument hc ⟨Document.Everywhere.and d hreadable hdefined, hdepth⟩
    have hread (path : String) := ofDocument_fileText path hfits.1 htext
    refine ⟨fun path => ⟨c, hread path, rfl, htext⟩, fun disk path w => ⟨?_, ?_⟩⟩
    · unfold save
      rw [htext]
    · intro content hpath hcontent
      refine load_of_contentAt w hpath hcontent ?_
      rw [Disk.contentAt_put hcontent]
      exact hread path

/-- A configuration with a name beyond ASCII, a zero that is no whole number, and an object, its
names not in order, for the level of the journal. -/
def unusualSettings : Document :=
  .object [("peers", .list [.text "ü😀"]), ("max_std", .real (.ofInt 0)),
    ("rate_size", .int 0), ("log", .object [("level", .object [("b", .int 1), ("a", .null)])])]

/-- It is saved in a file, and loaded from the file as it was. -/
theorem same_of_unusualSettings :
    ∃ (c : Config) (text : String), ofDocument unusualSettings = .ok c ∧
      (c.save {} "q.json" {}).1 = .ok (Disk.put {} "q.json" text.toUTF8) ∧
      (load (Disk.put {} "q.json" text.toUTF8) "q.json" {}).1 = .ok c := by
  have hreadable : unusualSettings.Everywhere Document.Readable := by
    simp only [unusualSettings, Document.Everywhere, Document.EverywhereItems,
      Document.EverywhereMembers, Document.Readable]
    decide
  have hdefined : unusualSettings.Everywhere Document.Defined := by
    simp only [unusualSettings, Document.Everywhere, Document.EverywhereItems,
      Document.EverywhereMembers, Document.Defined]
    decide +kernel
  obtain ⟨c, hc⟩ : ∃ c, ofDocument unusualSettings = .ok c := ⟨_, rfl⟩
  obtain ⟨hwritten, hkept⟩ := same_after_saving.2.2 unusualSettings c hreadable hdefined hc
  obtain ⟨text, htext⟩ := hwritten (by decide)
  obtain ⟨hsave, hload⟩ := (hkept text htext).2 {} "q.json" {}
  refine ⟨c, text, hc, hsave, hload text.toUTF8 (by decide) ?_⟩
  generalize text.toUTF8 = content
  rfl

end Config

end Concord
