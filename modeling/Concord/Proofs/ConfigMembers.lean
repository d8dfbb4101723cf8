import Concord.Config.Reader
import Concord.Proofs.DocumentText

/-!
# Configurations and their members

Settings are taken one by one, and each of them is put to those before it, so a configuration holds
the standard settings with those of the document in their places, as they stand. An object is a
configuration exactly if all of its names are names of settings.

The main statements are `Config.exists_ofDocument_iff`, which objects are configurations, and
`Config.settings_of_ofMembers`, what these configurations are.
-/

namespace Concord

/-! ## Taking settings one by one -/

section Settings

variable {γ : Type} {group : String} {set? : γ → String → Document → Option γ} {c c' : γ}
  {members : List (String × Document)}

/-- Members are taken exactly if all of their names are names of settings. -/
theorem exists_setAll_iff {names : List String}
    (hnames : ∀ c name value, (set? c name value).isSome ↔ name ∈ names) :
    (∃ c', setAll group set? c members = .ok c') ↔ ∀ m ∈ members, m.1 ∈ names := by
  induction members generalizing c with
  | nil => exact ⟨fun _ _ h => absurd h List.not_mem_nil, fun _ => ⟨c, rfl⟩⟩
  | cons member members ih =>
    rw [List.forall_mem_cons, ← hnames c member.1 member.2]
    show (∃ c', setAll group set? c ((member.1, member.2) :: members) = .ok c') ↔ _
    rw [setAll]
    cases set? c member.1 member.2 with
    | none => simp
    | some d => simpa using ih

/-- Settings that are taken one by one are put to those before them. -/
theorem setAll_eq_putAll {view : γ → List (String × Document)}
    (hset : ∀ {c name value c'}, set? c name value = some c' →
      view c' = Document.put (view c) name value)
    (h : setAll group set? c members = .ok c') : view c' = Document.putAll (view c) members := by
  induction members generalizing c with
  | nil =>
    cases h
    rfl
  | cons member members ih =>
    change setAll group set? c ((member.1, member.2) :: members) = .ok c' at h
    rw [setAll] at h
    split at h
    · rename_i d hd
      rw [ih h, hset hd]
      rfl
    · cases h

end Settings

namespace LogConfig

/-- A setting that is taken is put to the others. -/
theorem members_set? {c c' : LogConfig} {name : String} {value : Document}
    (h : c.set? name value = some c') : c'.members = Document.put c.members name value := by
  unfold set? at h
  split at h <;> cases h <;> rfl

end LogConfig

/-! ## Members -/

namespace Document

variable {members : List (String × Document)} {name : String} {value : Document}

/-- The value of a name is that of one of the members. -/
theorem mem_of_lookup (h : lookup members name = some value) : (name, value) ∈ members := by
  obtain ⟨m, hm, rfl⟩ := Option.map_eq_some_iff.1 h
  have hname : m.1 = name := by simpa using List.find?_some hm
  rw [← hname]
  exact List.mem_of_find?_eq_some hm

/-- The value of a name, of distinct ones, is that of the member with the name. -/
theorem lookup_eq_some_iff (hnames : (members.map (·.1)).Nodup) :
    lookup members name = some value ↔ (name, value) ∈ members := by
  refine ⟨mem_of_lookup, fun h => ?_⟩
  induction members with
  | nil => cases h
  | cons member members ih =>
    rw [List.map_cons, List.nodup_cons] at hnames
    rcases List.mem_cons.1 h with rfl | h
    · simp [lookup]
    · have hne : member.1 ≠ name := fun heq => hnames.1 (heq ▸ List.mem_map_of_mem h)
      have hrest : lookup members name = some value := ih hnames.2 h
      simpa [lookup, hne] using hrest

/-- The names of an object are texts. -/
theorem namedEntries_texts (members : List (String × Document)) :
    namedEntries (members.map fun m => (text m.1, m.2)) = .ok members := by
  induction members with
  | nil => rfl
  | cons member members ih =>
    rw [List.map_cons, namedEntries, ih]
    rfl

end Document

namespace Config

variable {c : Config}

/-- All settings but those of the journal. -/
def settings (c : Config) : List (String × Document) := c.members.filter (·.1 ≠ logName)

/-- A setting that is taken is put to the others. -/
theorem settings_set? {c' : Config} {name : String} {value : Document}
    (h : c.set? name value = some c') : c'.settings = Document.put c.settings name value := by
  unfold set? at h
  split at h <;> cases h <;> rfl

/-- Settings are read again from the members they are written as. -/
theorem ofMembers_members (c : Config) : ofMembers c.members = .ok c := by
  rfl

/-- The members of a configuration have distinct names. -/
theorem nodup_members (c : Config) : (c.members.map (·.1)).Nodup := by
  have hnames : c.members.map (·.1) = names ++ [logName] := rfl
  rw [hnames]
  decide

/-- An object of distinct names is a configuration exactly if its members are the same one. -/
theorem ofDocument_object {members : List (String × Document)}
    (hnames : (members.map (·.1)).Nodup) :
    ofDocument (.object members) = .ok c ↔ ofMembers members = .ok c := by
  unfold ofDocument
  simp only [Document.entries, Document.namedEntries_texts, Except.bind,
    Document.ofPairs_of_nodup hnames]
  cases ofMembers members with
  | error fault => simp
  | ok config => simp

/-- A configuration is read again from the document it is written as. -/
theorem ofDocument_toDocument (c : Config) : ofDocument c.toDocument = .ok c :=
  (ofDocument_object c.nodup_members).2 c.ofMembers_members

/-! ## Documents that are configurations -/

/-- The settings of the journal that a document gives: the members of an object. -/
def logMembers : Document → List (String × Document)
  | .object members => members
  | _ => []

/-- The settings of the journal are the standard ones, and those that the document gives are put
to them. -/
theorem members_of_logOfDocument {d : Document} {log : LogConfig}
    (h : logOfDocument d = .ok log) :
    log.members = Document.putAll (LogConfig.members {}) (logMembers d) := by
  unfold logOfDocument at h
  split at h
  · cases h
    rfl
  · exact setAll_eq_putAll LogConfig.members_set? h
  · cases h

/-- The settings are the standard ones, and those of the members are put to them. -/
theorem settings_of_ofMembers {members : List (String × Document)} (h : ofMembers members = .ok c) :
    c.settings = Document.putAll (settings {}) (members.filter (·.1 ≠ logName)) ∧
      c.log.members = Document.putAll (LogConfig.members {})
        (logMembers ((Document.lookup members logName).getD .null)) := by
  obtain ⟨config, hconfig, h⟩ := bind_eq_ok.1 h
  obtain ⟨log, hlog, h⟩ := bind_eq_ok.1 h
  cases h
  have hsettings : config.settings = _ := setAll_eq_putAll settings_set? hconfig
  exact ⟨hsettings, members_of_logOfDocument hlog⟩

/-- The group for the journal is nothing, or an object whose names are names of its settings. -/
theorem exists_logOfDocument_iff {d : Document} :
    (∃ c, logOfDocument d = .ok c) ↔
      d = .null ∨ ∃ group, d = .object group ∧ ∀ m ∈ group, m.1 ∈ LogConfig.names := by
  unfold logOfDocument
  split
  · exact ⟨fun _ => .inl rfl, fun _ => ⟨_, rfl⟩⟩
  · rw [exists_setAll_iff LogConfig.set?_isSome_iff]
    simp
  · rename_i hnull hobject
    constructor
    · rintro ⟨_, h⟩
      cases h
    · rintro (rfl | ⟨group, rfl, -⟩)
      · exact absurd rfl hnull
      · exact absurd rfl (hobject group)

/-- Members are a configuration exactly if those that are no group can be taken, and the group for
the journal can. -/
theorem exists_ofMembers_iff {members : List (String × Document)} :
    (∃ c, ofMembers members = .ok c) ↔
      (∃ c, setAll "Config" set? {} (members.filter (·.1 ≠ logName)) = .ok c) ∧
        ∃ log, logOfDocument ((Document.lookup members logName).getD .null) = .ok log := by
  constructor
  · rintro ⟨c, hc⟩
    obtain ⟨config, hconfig, hrest⟩ := bind_eq_ok.1 hc
    obtain ⟨log, hlog, -⟩ := bind_eq_ok.1 hrest
    exact ⟨⟨config, hconfig⟩, ⟨log, hlog⟩⟩
  · rintro ⟨⟨config, hconfig⟩, ⟨log, hlog⟩⟩
    exact ⟨_, bind_eq_ok.2 ⟨config, hconfig, bind_eq_ok.2 ⟨log, hlog, rfl⟩⟩⟩

/-- An object of distinct names is a configuration exactly if each of its names is that of a setting
or of the group for the journal, and this group can be taken. -/
theorem exists_ofDocument_iff {members : List (String × Document)}
    (hnames : (members.map (·.1)).Nodup) :
    (∃ c, ofDocument (.object members) = .ok c) ↔
      (∀ m ∈ members, m.1 ∈ names ∨ m.1 = logName) ∧
        ∀ value, (logName, value) ∈ members →
          value = .null ∨ ∃ group, value = .object group ∧ ∀ m ∈ group, m.1 ∈ LogConfig.names := by
  have hsettings : (∀ m ∈ members.filter (·.1 ≠ logName), m.1 ∈ names) ↔
      ∀ m ∈ members, m.1 ∈ names ∨ m.1 = logName := by
    simp only [List.mem_filter, decide_eq_true_eq, and_imp]
    exact forall₂_congr fun m _ => by tauto
  simp only [ofDocument_object hnames]
  rw [exists_ofMembers_iff, exists_setAll_iff set?_isSome_iff, hsettings, exists_logOfDocument_iff]
  refine and_congr_right fun _ => ?_
  simp only [← Document.lookup_eq_some_iff hnames]
  -- A group that is absent is nothing.
  cases Document.lookup members logName with
  | none => simp
  | some value => simp

end Config

end Concord
