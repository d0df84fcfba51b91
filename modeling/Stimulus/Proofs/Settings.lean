import Stimulus.Config
import Stimulus.Proofs.Files.Path
import Stimulus.Proofs.Result
import Stimulus.Proofs.Toml.Names

/-! Where the settings come from.  A configuration has two values of use, and the settings take each
one from the command line, from there or from a default, neither looking at the other.  Only a
configuration file that is to be read can make them fail, and what else the command line says does
not help. -/

namespace Stimulus

namespace Config

open Toml (Value)

/-! ### What a configuration says -/

/-- What stands under a key of a table: nothing if the table or the key is missing.  A date is a table
without keys, and in an array the first item stands for the value of the key. -/
inductive Says (key : String) : Option Value → Option String → Prop
  | absent : Says key none none
  | date : Says key (some .datetime) none
  | missing {fields : List (String × Value)} (h : fields.lookup key = none) :
      Says key (some (.table fields)) none
  | text {fields : List (String × Value)} {text : String}
      (h : fields.lookup key = some (.string text)) : Says key (some (.table fields)) (some text)
  | item {text : String} {items : List Value} :
      Says key (some (.array (.string text :: items))) (some text)

/-- The root of the server's API; here an array may also be empty. -/
inductive SaysServer : Option Value → Option String → Prop
  | like {value : Option Value} {server : Option String} (h : Says "base_url" value server) :
      SaysServer value server
  | noItems : SaysServer (some (.array [])) none

/-- A text is a configuration with these values for the server and the table. -/
inductive Valid (text : String) (server table : Option String) : Prop
  | intro {fields : List (String × Value)} (parsed : Toml.parse text = some fields)
      (saysServer : SaysServer (fields.lookup "server") server)
      (saysTable : Says "path" (fields.lookup "table") table)

/-- A path as it is meant in a file: an absolute one as it is, a relative one behind a text that
names the directory of the file. -/
inductive Located (file path : String) : String → Prop
  | absolute (h : Path.isRelative path = false) : Located file path path
  | relative (h : Path.isRelative path = true) {front : String}
      (directory : Path.names front = (Path.names file).dropLast)
      (ends : front = "" ∨ front.toList.getLast? = some '/')
      (start : Path.names file ≠ [] → Path.isRelative front = Path.isRelative file) :
      Located file path (front ++ path)

variable {value : Value} {text : String} {config config' : Config}

theorem readText_eq_ok_iff {expected : String} :
    readText expected value = .ok text ↔ value = .string text := by
  cases value <;> simp [readText, refuse, Decode.fail]

theorem says_array_iff {key : String} {item : Value} {items : List Value} {said : Option String} :
    Says key (some (.array (item :: items))) said ↔ ∃ text, item = .string text ∧ some text = said := by
  constructor
  · rintro ⟨⟩
    exact ⟨_, rfl, rfl⟩
  · rintro ⟨text, rfl, rfl⟩
    exact .item

theorem says_table_iff {key : String} {fields : List (String × Value)} {said : Option String} :
    Says key (some (.table fields)) said ↔
      (fields.lookup key = none ∧ none = said) ∨
        ∃ text, fields.lookup key = some (.string text) ∧ some text = said := by
  constructor
  · intro h
    cases h with
    | missing h => exact .inl ⟨h, rfl⟩
    | text h => exact .inr ⟨_, h, rfl⟩
  · rintro (⟨h, rfl⟩ | ⟨text, h, rfl⟩)
    · exact .missing h
    · exact .text h

theorem readTable_eq_ok_iff {table : Option String} :
    readTable value = .ok table ↔ Says "path" (some value) table := by
  cases value with
  | string | integer | float | boolean => exact iff_of_false nofun nofun
  | datetime =>
    constructor
    · rintro ⟨⟩
      exact .date
    · rintro ⟨⟩
      rfl
  | array items =>
    cases items with
    | nil => exact iff_of_false nofun nofun
    | cons item items =>
      rw [says_array_iff, readTable, map_eq_ok_iff]
      simp only [readText_eq_ok_iff]
  | table fields =>
    rw [says_table_iff, readTable]
    cases fields.lookup "path" with
    | none => simp
    | some value => simp [map_eq_ok_iff, readText_eq_ok_iff]

theorem saysServer_iff {server : Option String} :
    SaysServer (some value) server ↔
      Says "base_url" (some value) server ∨ (value = .array [] ∧ server = none) := by
  constructor
  · rintro (h | _)
    · exact .inl h
    · exact .inr ⟨rfl, rfl⟩
  · rintro (h | ⟨rfl, rfl⟩)
    · exact .like h
    · exact .noItems

theorem readServer_eq_ok_iff {url : String} :
    readServer value = .ok url ↔
      ∃ server, SaysServer (some value) server ∧ url = server.getD defaultBaseUrl := by
  simp only [saysServer_iff]
  cases value with
  | string | integer | float | boolean =>
    refine iff_of_false nofun ?_
    rintro ⟨server, ⟨⟨⟩⟩ | ⟨⟨⟩, -⟩, -⟩
  | datetime =>
    constructor
    · rintro ⟨⟩
      exact ⟨none, .inl .date, rfl⟩
    · rintro ⟨server, ⟨⟨⟩⟩ | ⟨⟨⟩, -⟩, rfl⟩
      rfl
  | array items =>
    cases items with
    | nil =>
      constructor
      · rintro ⟨⟩
        exact ⟨none, .inr ⟨rfl, rfl⟩, rfl⟩
      · rintro ⟨server, ⟨⟨⟩⟩ | ⟨-, rfl⟩, rfl⟩
        rfl
    | cons item items =>
      have hread : readServer (.array (item :: items)) = readText "a string" item := rfl
      rw [hread, readText_eq_ok_iff]
      simp only [says_array_iff]
      constructor
      · rintro rfl
        exact ⟨some url, .inl ⟨url, rfl, rfl⟩, rfl⟩
      · rintro ⟨server, ⟨text, rfl, rfl⟩ | ⟨⟨⟩, -⟩, rfl⟩
        rfl
  | table fields =>
    simp only [says_table_iff, readServer]
    cases fields.lookup "base_url" with
    | none => simp [eq_comm]
    | some value =>
      simp only [readText_eq_ok_iff]
      constructor
      · rintro rfl
        exact ⟨some url, .inl (.inr ⟨url, rfl, rfl⟩), rfl⟩
      · rintro ⟨server, (⟨⟨⟩, -⟩ | ⟨text, ⟨⟩, rfl⟩) | ⟨⟨⟩, -⟩, rfl⟩
        rfl

theorem lookup_eq_none_of_not_mem {name : String} {fields : List (String × Value)}
    (h : name ∉ fields.map (·.1)) : fields.lookup name = none := by
  rw [List.lookup_eq_none_iff]
  intro field hfield
  rw [bne_iff_ne]
  rintro rfl
  exact h (List.mem_map_of_mem hfield)

/-- What a field says is found behind one field first, and then in the others. -/
theorem elim_lookup_cons {α ε : Type} {name key : String} {fields : List (String × Value)}
    {read : Value → Except ε α} {before after : α} (hdistinct : name ∉ fields.map (·.1)) :
    (List.lookup key ((name, value) :: fields)).elim (.ok before) read = .ok after ↔
      ∃ between, (List.lookup key [(name, value)]).elim (.ok before) read = .ok between ∧
        (fields.lookup key).elim (.ok between) read = .ok after := by
  by_cases hkey : key = name
  · subst hkey
    rw [List.lookup_cons_self, List.lookup_cons_self, lookup_eq_none_of_not_mem hdistinct]
    simp
  · have hname : (key == name) = false := beq_eq_false_iff_ne.mpr hkey
    rw [List.lookup_cons, List.lookup_cons, hname]
    simp

theorem add_eq_ok_iff {field : String × Value} :
    add config field = .ok config' ↔
      (List.lookup "server" [field]).elim (.ok config.baseUrl) readServer = .ok config'.baseUrl ∧
        (List.lookup "table" [field]).elim (.ok config.table) readTable = .ok config'.table := by
  obtain ⟨baseUrl, table⟩ := config
  obtain ⟨baseUrl', table'⟩ := config'
  unfold add
  split
  case h_1 value =>
    cases hread : readServer value <;>
      simp [hread, List.lookup_cons, bind, Except.bind, pure, Except.pure]
  case h_2 value =>
    cases hread : readTable value <;>
      simp [hread, List.lookup_cons, bind, Except.bind, pure, Except.pure]
  case h_3 hserver htable =>
    obtain ⟨name, value⟩ := field
    have hskip (key : String) (hkey : key ≠ name) : List.lookup key [(name, value)] = none := by
      rw [List.lookup_cons, beq_eq_false_iff_ne.mpr hkey, List.lookup_nil]
    rw [hskip "server" fun heq => hserver value (by rw [heq]),
      hskip "table" fun heq => htable value (by rw [heq])]
    simp

theorem foldlM_add_eq_ok_iff {fields : List (String × Value)}
    (hdistinct : (fields.map (·.1)).Nodup) :
    fields.foldlM add config = .ok config' ↔
      (fields.lookup "server").elim (.ok config.baseUrl) readServer = .ok config'.baseUrl ∧
        (fields.lookup "table").elim (.ok config.table) readTable = .ok config'.table := by
  induction fields generalizing config with
  | nil =>
    obtain ⟨baseUrl, table⟩ := config
    obtain ⟨baseUrl', table'⟩ := config'
    simp [pure, Except.pure]
  | cons field fields ih =>
    obtain ⟨hfirst, hrest⟩ := List.nodup_cons.mp hdistinct
    rw [List.foldlM_cons, bind_eq_ok_iff, elim_lookup_cons hfirst, elim_lookup_cons hfirst]
    simp only [ih hrest, add_eq_ok_iff]
    constructor
    · rintro ⟨next, ⟨hserver, htable⟩, hservers, htables⟩
      exact ⟨⟨next.baseUrl, hserver, hservers⟩, ⟨next.table, htable, htables⟩⟩
    · rintro ⟨⟨baseUrl, hserver, hservers⟩, ⟨table, htable, htables⟩⟩
      exact ⟨⟨baseUrl, table⟩, ⟨hserver, htable⟩, hservers, htables⟩

/-- A text is read as a configuration exactly if it is one. -/
theorem parse_eq_ok_iff :
    parse text = .ok config ↔
      ∃ server, Valid text server config.table ∧ config.baseUrl = server.getD defaultBaseUrl := by
  rw [parse, mapError_eq_ok_iff, decode]
  split
  · rename_i hparse
    refine iff_of_false nofun ?_
    rintro ⟨server, ⟨hfields, -, -⟩, -⟩
    rw [hparse] at hfields
    cases hfields
  · rename_i fields hparse
    rw [foldlM_add_eq_ok_iff (Toml.nodup_of_parse hparse)]
    have hserver : (fields.lookup "server").elim (.ok default.baseUrl) readServer =
        .ok config.baseUrl ↔ ∃ server, SaysServer (fields.lookup "server") server ∧
          config.baseUrl = server.getD defaultBaseUrl := by
      cases fields.lookup "server" with
      | none =>
        constructor
        · intro h
          exact ⟨none, .like .absent, (Except.ok.inj h).symm⟩
        · rintro ⟨server, ⟨⟨⟩⟩, h⟩
          rw [h]
          rfl
      | some value => exact readServer_eq_ok_iff
    have htable : (fields.lookup "table").elim (.ok default.table) readTable =
        .ok config.table ↔ Says "path" (fields.lookup "table") config.table := by
      cases fields.lookup "table" with
      | none =>
        constructor
        · intro h
          rw [← Except.ok.inj h]
          exact .absent
        · intro h
          cases htable : config.table with
          | none => rfl
          | some path =>
            rw [htable] at h
            cases h
      | some value => exact readTable_eq_ok_iff
    rw [hserver, htable]
    constructor
    · rintro ⟨⟨server, hsays, hurl⟩, hpath⟩
      exact ⟨server, ⟨hparse, hsays, hpath⟩, hurl⟩
    · rintro ⟨server, ⟨hfields, hsays, hpath⟩, hurl⟩
      obtain rfl := Option.some.inj (hparse.symm.trans hfields)
      exact ⟨⟨server, hsays, hurl⟩, hpath⟩

theorem located_locate (file path : String) : Located file path (locate file path) := by
  unfold locate
  split
  · rename_i hrelative
    split
    · rename_i directory hparent
      obtain ⟨front, hjoin, hnames, hends, hstart⟩ := Path.exists_join directory path
      obtain ⟨hdirectory, hfrom⟩ := Path.names_parent? hparent
      rw [hjoin]
      exact .relative hrelative (hnames.trans hdirectory) hends fun _ => hstart.trans hfrom
    · rename_i hparent
      have hnone := Path.names_of_parent?_eq_none hparent
      have hlocated : Located file path ("" ++ path) :=
        .relative hrelative (by rw [hnone]; rfl) (.inl rfl) fun hnames => absurd hnone hnames
      rwa [String.empty_append] at hlocated
  · rename_i habsolute
    exact .absolute (by simpa using habsolute)

end Config

theorem fromUTF8?_toUTF8 (text : String) : String.fromUTF8? text.toUTF8 = some text := by
  have hvalid : text.toUTF8.IsValidUTF8 := text.isValidUTF8
  exact dif_pos hvalid

theorem FileView.text_eq_ok_iff {files : FileView} {path text : String} :
    files.text path = .ok text ↔ files.bytes path = .ok text.toUTF8 := by
  rw [FileView.text, bind_eq_ok_iff]
  constructor
  · rintro ⟨bytes, hbytes, h⟩
    split at h
    · rename_i htext
      cases h
      rw [String.fromUTF8?] at htext
      split at htext
      · cases htext
        exact hbytes
      · cases htext
    · cases h
  · intro h
    refine ⟨_, h, ?_⟩
    rw [fromUTF8?_toUTF8]
    rfl

theorem Config.load_eq_ok_iff {files : FileView} {path : String} {config : Config} :
    Config.load files path = .ok config ↔ ∃ text server table,
      files.bytes path = .ok text.toUTF8 ∧ Config.Valid text server table ∧
        config = ⟨server.getD defaultBaseUrl, table.map (Config.locate path)⟩ := by
  rw [Config.load, bind_eq_ok_iff]
  simp only [mapError_eq_ok_iff, FileView.text_eq_ok_iff]
  constructor
  · rintro ⟨text, hbytes, h⟩
    obtain ⟨read, hread, h⟩ := bind_eq_ok_iff.mp h
    cases h
    obtain ⟨server, hvalid, hurl⟩ := Config.parse_eq_ok_iff.mp hread
    exact ⟨text, server, read.table, hbytes, hvalid, by rw [hurl]⟩
  · rintro ⟨text, server, table, hbytes, hvalid, rfl⟩
    have hread : Config.parse text = .ok ⟨server.getD defaultBaseUrl, table⟩ :=
      Config.parse_eq_ok_iff.mpr ⟨server, hvalid, rfl⟩
    exact ⟨text, hbytes, bind_eq_ok_iff.mpr ⟨_, hread, rfl⟩⟩

namespace Settings

/-- The configuration file that is to be read: the one that is named, or the one at its default place
if it is there. -/
def source (files : FileView) (defaultFile : Option String) (overrides : Overrides) :
    Option String :=
  overrides.config.or (defaultFile.filter files.isThere)

/-- What the configuration gives for the server and for the table: the values of the file that is to
be read, and nothing if there is none. -/
inductive Found (files : FileView) : Option String → Option String → Option String → Prop
  | nothing : Found files none none none
  | file {path text : String} {server table : Option String}
      (bytes : files.bytes path = .ok text.toUTF8) (valid : Config.Valid text server table) :
      Found files (some path) server table

/-- A table's path as the configuration in a file means it. -/
inductive Meant : Option String → Option String → Option String → Prop
  | nothing {file : Option String} : Meant file none none
  | located {file path result : String} (h : Config.Located file path result) :
      Meant (some file) (some path) (some result)

variable {files : FileView} {defaultFile : Option String} {overrides : Overrides}
  {settings : Settings}

theorem findConfig_eq_ok_iff {config : Config} :
    findConfig files defaultFile overrides = .ok config ↔
      ∃ server table, Found files (source files defaultFile overrides) server table ∧
        config = ⟨server.getD Config.defaultBaseUrl,
          table.map (Config.locate ((source files defaultFile overrides).getD ""))⟩ := by
  have hload {path : String} : Config.load files path = .ok config ↔
      ∃ server table, Found files (some path) server table ∧
        config = ⟨server.getD Config.defaultBaseUrl, table.map (Config.locate path)⟩ := by
    rw [Config.load_eq_ok_iff]
    constructor
    · rintro ⟨text, server, table, hbytes, hvalid, rfl⟩
      exact ⟨server, table, .file hbytes hvalid, rfl⟩
    · rintro ⟨server, table, hbytes, rfl⟩
      obtain _ | ⟨hbytes, hvalid⟩ := hbytes
      exact ⟨_, server, table, hbytes, hvalid, rfl⟩
  have hnothing : Except.ok Config.default = (.ok config : Except Error Config) ↔
      ∃ server table, Found files none server table ∧
        config = ⟨server.getD Config.defaultBaseUrl, table.map (Config.locate "")⟩ := by
    constructor
    · rintro ⟨⟩
      exact ⟨none, none, .nothing, rfl⟩
    · rintro ⟨server, table, ⟨⟩, rfl⟩
      rfl
  unfold findConfig
  cases hconfig : overrides.config with
  | some path =>
    have hsource : source files defaultFile overrides = some path := by
      rw [source, hconfig, Option.some_or]
    rw [hsource]
    exact hload
  | none =>
    have hsource : source files defaultFile overrides = defaultFile.filter files.isThere := by
      rw [source, hconfig, Option.none_or]
    rw [hsource]
    cases defaultFile with
    | none => exact hnothing
    | some path =>
      by_cases hthere : files.isThere path = true
      · rw [Option.filter_some_pos hthere]
        simp only [if_pos hthere]
        exact hload
      · rw [Option.filter_some_neg (by simpa using hthere)]
        simp only [if_neg hthere]
        exact hnothing

theorem resolve_eq_ok_iff :
    resolve files defaultFile overrides = .ok settings ↔
      ∃ server table, Found files (source files defaultFile overrides) server table ∧
        settings = ⟨(overrides.baseUrl.or server).getD Config.defaultBaseUrl,
          overrides.table.or
            (table.map (Config.locate ((source files defaultFile overrides).getD "")))⟩ := by
  rw [resolve, bind_eq_ok_iff]
  simp only [findConfig_eq_ok_iff]
  constructor
  · rintro ⟨config, ⟨server, table, hfound, rfl⟩, h⟩
    cases h
    refine ⟨server, table, hfound, ?_⟩
    cases overrides.baseUrl <;> rfl
  · rintro ⟨server, table, hfound, rfl⟩
    refine ⟨_, ⟨server, table, hfound, rfl⟩, ?_⟩
    cases overrides.baseUrl <;> rfl

theorem exists_found_iff :
    (∃ server table, Found files (source files defaultFile overrides) server table) ↔
      ∀ file, source files defaultFile overrides = some file →
        ∃ text server table, files.bytes file = .ok text.toUTF8 ∧
          Config.Valid text server table := by
  cases source files defaultFile overrides with
  | none => exact iff_of_true ⟨none, none, .nothing⟩ nofun
  | some path =>
    constructor
    · rintro ⟨server, table, hfound⟩ _ ⟨⟩
      obtain _ | ⟨hbytes, hvalid⟩ := hfound
      exact ⟨_, server, table, hbytes, hvalid⟩
    · intro h
      obtain ⟨text, server, table, hbytes, hvalid⟩ := h path rfl
      exact ⟨server, table, .file hbytes hvalid⟩

theorem exists_meant {server table : Option String} {file : Option String}
    (h : Found files file server table) :
    Meant file table (table.map (Config.locate (file.getD ""))) := by
  cases h with
  | nothing => exact .nothing
  | @file path text server table bytes valid =>
    cases table with
    | none => exact .nothing
    | some table => exact .located (Config.located_locate path table)

/-- The settings fail exactly if a configuration file is to be read that is no text or no
configuration.  Otherwise each of the two comes from the command line, else from the configuration,
else it has its default; neither depends on what is said of the other. -/
theorem resolve_precedence (files : FileView) (defaultFile : Option String)
    (overrides : Overrides) :
    ((∃ e, resolve files defaultFile overrides = .error e) ↔
      ∃ file, source files defaultFile overrides = some file ∧
        ¬∃ text server table, files.bytes file = .ok text.toUTF8 ∧
          Config.Valid text server table) ∧
    (∀ server table, Found files (source files defaultFile overrides) server table →
      ∃ located, Meant (source files defaultFile overrides) table located ∧
        resolve files defaultFile overrides =
          .ok ⟨(overrides.baseUrl.or server).getD Config.defaultBaseUrl,
            overrides.table.or located⟩) ∧
    (∀ flag, (resolve files defaultFile { overrides with table := flag }).map (·.baseUrl) =
      (resolve files defaultFile overrides).map (·.baseUrl)) ∧
    (∀ flag, (resolve files defaultFile { overrides with baseUrl := flag }).map (·.tablePath) =
      (resolve files defaultFile overrides).map (·.tablePath)) ∧
    ∀ (files' : FileView) (server server' table table' : Option String),
      Found files (source files defaultFile overrides) server table →
      Found files' (source files' defaultFile overrides) server' table' →
        (server = server' →
          (resolve files defaultFile overrides).map (·.baseUrl) =
            (resolve files' defaultFile overrides).map (·.baseUrl)) ∧
        (table = table' →
          source files defaultFile overrides = source files' defaultFile overrides →
            (resolve files defaultFile overrides).map (·.tablePath) =
              (resolve files' defaultFile overrides).map (·.tablePath)) := by
  refine ⟨?_, ?_, fun flag => ?_, fun flag => ?_, ?_⟩
  · have hok : (∃ settings, resolve files defaultFile overrides = .ok settings) ↔
        ∃ server table, Found files (source files defaultFile overrides) server table := by
      simp only [resolve_eq_ok_iff]
      constructor
      · rintro ⟨settings, server, table, hfound, -⟩
        exact ⟨server, table, hfound⟩
      · rintro ⟨server, table, hfound⟩
        exact ⟨_, server, table, hfound, rfl⟩
    have herror : (∃ e, resolve files defaultFile overrides = .error e) ↔
        ¬∃ settings, resolve files defaultFile overrides = .ok settings := by
      cases resolve files defaultFile overrides <;> simp
    rw [herror, hok, exists_found_iff]
    simp only [not_forall, exists_prop]
  · intro server table hfound
    exact ⟨_, exists_meant hfound, resolve_eq_ok_iff.mpr ⟨server, table, hfound, rfl⟩⟩
  · have hsame : findConfig files defaultFile { overrides with table := flag } =
        findConfig files defaultFile overrides := rfl
    rw [resolve, resolve, hsame]
    cases findConfig files defaultFile overrides <;> rfl
  · have hsame : findConfig files defaultFile { overrides with baseUrl := flag } =
        findConfig files defaultFile overrides := rfl
    rw [resolve, resolve, hsame]
    cases findConfig files defaultFile overrides <;> rfl
  · intro files' server server' table table' hfound hfound'
    rw [resolve_eq_ok_iff.mpr ⟨server, table, hfound, rfl⟩,
      resolve_eq_ok_iff.mpr ⟨server', table', hfound', rfl⟩]
    constructor
    · rintro rfl
      rfl
    · rintro rfl hsource
      rw [hsource]
      rfl

/-! ### A lamp's configuration -/

def lampFile : String := "/etc/lamp/config.toml"

/-- A file system with this text in the lamp's configuration file and nothing else. -/
def lampFiles (text : String) : FileView where
  isThere path := path == lampFile
  bytes path := if path = lampFile then .ok text.toUTF8 else .error .notFound

def lampText : String := "[server]\nbase_url = \"http://lamp/api\"\n[table]\npath = \"t.yaml\"\n"

/-- The same server, and no table. -/
def serverText : String := "server = [\"http://lamp/api\"]\n"

theorem found_lampFiles {text : String} {table : Option String}
    (h : (Config.parse text).toOption = some ⟨"http://lamp/api", table⟩) :
    Found (lampFiles text) (some lampFile) (some "http://lamp/api") table := by
  obtain ⟨server, hvalid, hurl⟩ := Config.parse_eq_ok_iff.mp (eq_ok_of_toOption h)
  have hbytes : (lampFiles text).bytes lampFile = .ok text.toUTF8 := by simp [lampFiles]
  cases server with
  | none =>
    have hdefault : "http://lamp/api" ≠ Config.defaultBaseUrl := by decide
    exact absurd hurl hdefault
  | some server =>
    obtain rfl : "http://lamp/api" = server := hurl
    exact .file hbytes hvalid

theorem resolve_lampFiles :
    ∃ located, Config.Located lampFile "t.yaml" located ∧
      resolve (lampFiles lampText) none ⟨none, none, some lampFile⟩ =
        .ok ⟨"http://lamp/api", some located⟩ ∧
      (resolve (lampFiles lampText) none ⟨none, none, some lampFile⟩).map (·.baseUrl) =
        (resolve (lampFiles serverText) none ⟨none, none, some lampFile⟩).map (·.baseUrl) := by
  have hlamp : Found (lampFiles lampText) (some lampFile) (some "http://lamp/api")
      (some "t.yaml") := found_lampFiles (by decide +kernel)
  have hserver : Found (lampFiles serverText) (some lampFile) (some "http://lamp/api") none :=
    found_lampFiles (by decide +kernel)
  obtain ⟨-, hvalues, -, -, hkeys⟩ :=
    resolve_precedence (lampFiles lampText) none ⟨none, none, some lampFile⟩
  obtain ⟨located, hmeant, hresolve⟩ := hvalues _ _ hlamp
  cases hmeant with
  | located h => exact ⟨_, h, hresolve, (hkeys _ _ _ _ _ hlamp hserver).1 rfl⟩

end Settings

end Stimulus
