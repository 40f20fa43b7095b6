import TlsListener.Failure.Basic
import TlsListener.Proofs.Settings.LastDeclared
import TlsListener.Proofs.Toml.DistinctNames

/-!
# A document declares what could be declared one by one

An entry of a document stands under the name of a setting, and its item is of the kind that the
setting has: `Declares` says which declaration it then is, with the names and the kinds as they are
documented. A document of such entries gives the settings of these declarations. No name stands
twice in a document, so the declarations are of different settings and their order is of no account.

One entry under another name spoils the document, wherever it stands. The entries before it give no
complaint, and the complaint is about its name.
-/

namespace TlsListener

/-- The settings that are texts, with the declaration that a text makes. -/
def textSettings : List (String × (String → Setting)) :=
  [("key-store", .keyStore),
    ("key-store-password", fun text => .keyStorePassword ⟨text⟩),
    ("key-password", fun text => .keyPassword ⟨text⟩),
    ("key-store-type", fun text => .keyStoreType (.parse text)),
    ("key-store-provider", .keyStoreProvider),
    ("key-alias", .keyAlias),
    ("trust-store", .trustStore),
    ("trust-store-password", fun text => .trustStorePassword ⟨text⟩),
    ("trust-store-type", fun text => .trustStoreType (.parse text)),
    ("trust-store-provider", .trustStoreProvider),
    ("protocol", .protocol)]

/-- The settings that are lists of texts. -/
def listSettings : List (String × (List String → Setting)) :=
  [("enabled-protocols", .enabledProtocols), ("ciphers", .ciphers)]

/-- The texts that stand for a client authentication mode. -/
def modeTexts : List (String × ClientAuth) :=
  [("none", .none), ("want", .want), ("need", .need)]

/-- The names of all settings. -/
def settingNames : List String :=
  "enabled" :: "client-auth" :: (textSettings.map Prod.fst ++ listSettings.map Prod.fst)

/-- A list of items is a list of texts. -/
def AreTexts (items : List Toml.Item) (texts : List String) : Prop :=
  List.Forall₂ (fun item text => ∃ span, item = .scalar (.text text) span) items texts

/-- An entry of a document declares a setting. -/
inductive Declares : Toml.Key × Toml.Item → Setting → Prop where
  | enabled {key : Toml.Key} {value : Bool} {span : Toml.Span} : key.name = "enabled" →
      Declares (key, .scalar (.boolean value) span) (.enabled value)
  | text {key : Toml.Key} {declare : String → Setting} {text : String} {span : Toml.Span} :
      (key.name, declare) ∈ textSettings →
        Declares (key, .scalar (.text text) span) (declare text)
  | list {key : Toml.Key} {declare : List String → Setting} {items : List Toml.Item}
      {texts : List String} {span : Toml.Span} : (key.name, declare) ∈ listSettings →
        AreTexts items texts → Declares (key, .array items span) (declare texts)
  | clientAuth {key : Toml.Key} {text : String} {mode : ClientAuth} {span : Toml.Span} :
      key.name = "client-auth" → (text, mode) ∈ modeTexts →
        Declares (key, .scalar (.text text) span) (.clientAuth mode)

variable {entry : Toml.Key × Toml.Item} {entries : Toml.Entries} {declaration : Setting}
  {declarations : List Setting} {name text : String}

/-! ## One entry -/

theorem SettingKey.name_of_ofName? {key : SettingKey} (found : ofName? name = some key) :
    key.name = name :=
  eq_of_beq (List.find?_some (p := fun key : SettingKey => key.name == name) found)

theorem known_of_mem_textSettings {declare : String → Setting}
    (member : (name, declare) ∈ textSettings) : ∃ known, SettingKey.ofName? name = some known ∧
      (∀ {place text span}, known.read place (.scalar (.text text) span) = .ok (declare text)) ∧
        ∀ {text}, (declare text).key = known := by
  simp only [textSettings, List.mem_cons, Prod.mk.injEq, List.not_mem_nil, or_false] at member
  rcases member with h | h | h | h | h | h | h | h | h | h | h <;>
    (obtain ⟨rfl, rfl⟩ := h; exact ⟨_, rfl, rfl, rfl⟩)

theorem known_of_mem_listSettings {declare : List String → Setting}
    (member : (name, declare) ∈ listSettings) : ∃ known, SettingKey.ofName? name = some known ∧
      (∀ {place items span}, known.read place (.array items span) =
        declare <$> SettingKey.readTexts place (.array items span)) ∧
          ∀ {texts}, (declare texts).key = known := by
  simp only [listSettings, List.mem_cons, Prod.mk.injEq, List.not_mem_nil, or_false] at member
  rcases member with h | h <;> (obtain ⟨rfl, rfl⟩ := h; exact ⟨_, rfl, rfl, rfl⟩)

theorem readTexts_of_areTexts {place span : Toml.Span} {items : List Toml.Item}
    {texts : List String} (are : AreTexts items texts) :
    SettingKey.readTexts place (.array items span) = .ok texts := by
  rw [SettingKey.readTexts]
  induction are with
  | nil => rfl
  | cons text _ ih =>
      obtain ⟨span, rfl⟩ := text
      rw [List.mapM_cons, ih]
      rfl

theorem ofName?_of_mem_modeTexts {mode : ClientAuth} (member : (text, mode) ∈ modeTexts) :
    ClientAuth.ofName? text = some mode := by
  simp only [modeTexts, List.mem_cons, Prod.mk.injEq, List.not_mem_nil, or_false] at member
  rcases member with h | h | h <;> (obtain ⟨rfl, rfl⟩ := h; rfl)

/-- An entry is read as what it declares, which is the setting of its name. -/
theorem Declares.ofEntry (declares : Declares entry declaration) :
    Setting.ofEntry entry.1 entry.2 = .ok declaration ∧
      declaration.key.name = entry.1.name := by
  cases declares with
  | enabled named =>
      have known : SettingKey.ofName? "enabled" = some .enabled := rfl
      rw [Setting.ofEntry, named, known]
      exact ⟨rfl, rfl⟩
  | text member =>
      obtain ⟨key, known, read, own⟩ := known_of_mem_textSettings member
      rw [Setting.ofEntry, known, own]
      exact ⟨read, SettingKey.name_of_ofName? known⟩
  | list member are =>
      obtain ⟨key, known, read, own⟩ := known_of_mem_listSettings member
      rw [Setting.ofEntry, known, own]
      dsimp only
      rw [read, readTexts_of_areTexts are]
      exact ⟨rfl, SettingKey.name_of_ofName? known⟩
  | clientAuth named member =>
      have known : SettingKey.ofName? "client-auth" = some .clientAuth := rfl
      rw [Setting.ofEntry, named, known]
      dsimp only [SettingKey.read, SettingKey.readMode, SettingKey.readModeName]
      rw [ofName?_of_mem_modeTexts member]
      exact ⟨rfl, rfl⟩

/-- Whatever name is not that of a setting is complained about. -/
theorem ofEntry_of_notMem (unknown : entry.1.name ∉ settingNames) :
    Setting.ofEntry entry.1 entry.2 = .error ⟨entry.1.span, .unknownKey entry.1.name⟩ := by
  have every : ∀ key ∈ SettingKey.all, key.name ∈ settingNames := by decide
  have none : SettingKey.ofName? entry.1.name = none := by
    rw [SettingKey.ofName?, List.find?_eq_none]
    intro key member named
    exact unknown (eq_of_beq named ▸ every key member)
  rw [Setting.ofEntry, none]

/-! ## Documents -/

theorem mapM_ofEntry (declare : List.Forall₂ Declares entries declarations) :
    (entries.mapM fun entry => Setting.ofEntry entry.1 entry.2) = .ok declarations := by
  induction declare with
  | nil => rfl
  | cons declares _ ih =>
      rw [List.mapM_cons, declares.ofEntry.1, ih]
      rfl

/-- The declarations of a document are of different settings. -/
theorem nodup_key_of_document? (found : Toml.document? text = some entries)
    (declare : List.Forall₂ Declares entries declarations) :
    (declarations.map Setting.key).Nodup := by
  have names : (declarations.map Setting.key).map SettingKey.name =
      entries.map fun entry => entry.1.name := by
    clear found
    induction declare with
    | nil => rfl
    | cons declares _ ih =>
        rw [List.map_cons, List.map_cons, List.map_cons, ih, declares.ofEntry.2]
  have distinct := Toml.nodup_of_document? found
  rw [← names] at distinct
  exact distinct.of_map

/-- The first entry under an unknown name is what a document is refused for. -/
theorem mapM_ofEntry_of_notMem {before after : Toml.Entries}
    (declare : ∀ entry ∈ before, ∃ declaration, Declares entry declaration)
    (unknown : entry.1.name ∉ settingNames) :
    ((before ++ entry :: after).mapM fun entry => Setting.ofEntry entry.1 entry.2) =
      .error ⟨entry.1.span, .unknownKey entry.1.name⟩ := by
  induction before with
  | nil =>
      rw [List.nil_append, List.mapM_cons, ofEntry_of_notMem unknown]
      rfl
  | cons first before ih =>
      obtain ⟨declaration, declares⟩ := declare first List.mem_cons_self
      rw [List.cons_append, List.mapM_cons, declares.ofEntry.1,
        ih fun entry member => declare entry (List.mem_cons_of_mem first member)]
      rfl

/-- Settings are the same whether they are declared one by one or by a document. -/
structure DeclarationsAgree : Prop where
  /-- A setting has the value that was declared last, or its default. -/
  last : ∀ (declarations : List Setting) (key : SettingKey),
    (Settings.ofList declarations).value key =
      (Setting.lastOf key declarations).elim (Settings.default.value key) Setting.value
  /-- Settings are nothing but their values. -/
  whole : ∀ {s s' : Settings}, (∀ key, s.value key = s'.value key) → s = s'
  /-- Declarations of different settings may be made in either order. -/
  commute : ∀ (s : Settings) {x y : Setting}, x.key ≠ y.key →
    (s.declare x).declare y = (s.declare y).declare x
  /-- A document whose entries all declare a setting gives the settings that the same declarations
  make in any order. -/
  parsed : ∀ {text : String} {entries : Toml.Entries} {declarations declarations' : List Setting},
    Toml.document? text = some entries → List.Forall₂ Declares entries declarations →
      declarations.Perm declarations' → Settings.parse text = .ok (Settings.ofList declarations')
  /-- With one more entry, of any other name, it gives none. -/
  refused : ∀ {text : String} {before after : Toml.Entries} {entry : Toml.Key × Toml.Item},
    Toml.document? text = some (before ++ entry :: after) →
      (∀ entry ∈ before ++ after, ∃ declaration, Declares entry declaration) →
        entry.1.name ∉ settingNames → Settings.parse text =
          .error (.document (.fault (.rejected text ⟨entry.1.span, .unknownKey entry.1.name⟩)))

theorem declarationsAgree : DeclarationsAgree where
  last := Settings.value_ofList
  whole := Settings.ext_value
  commute s := s.declare_comm
  parsed {text entries declarations declarations'} found declare perm := by
    have read : Settings.ofEntries entries = .ok (Settings.ofList declarations) := by
      rw [Settings.ofEntries, mapM_ofEntry declare]
      rfl
    rw [Settings.parse, Settings.ofDocument, found]
    dsimp only
    rw [read, Settings.ofList_perm (nodup_key_of_document? found declare) perm]
    rfl
  refused {text before after entry} found declare unknown := by
    have complaint : Settings.ofEntries (before ++ entry :: after) =
        .error ⟨entry.1.span, .unknownKey entry.1.name⟩ := by
      rw [Settings.ofEntries, mapM_ofEntry_of_notMem
        (fun entry member => declare entry (List.mem_append_left after member)) unknown]
      rfl
    rw [Settings.parse, Settings.ofDocument, found]
    dsimp only
    rw [complaint]
    rfl

example : (Settings.parse "key-store-type = 'p12 '\nciphers = ['B', 'A']").toOption =
    some (Settings.ofList [.ciphers ["B", "A"], .keyStoreType .pkcs12]) := by
  decide +kernel

end TlsListener
