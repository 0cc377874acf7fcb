import Rtun.Persistence
import Rtun.Serde

/-!
# What the configuration file keeps

The records of the configuration as their serde attributes have them: which fields are
skipped on output, and which take a default on input. The crate between the text and the data
is given, and so is the text form of an id. A configuration whose text the crate keeps is
loaded as it was saved, and saving refuses what loading refuses.
-/

namespace Rtun

open Serde

/-- The TOML crate and the parser of ids. The crate also says which variant of an
enumeration a value names: a string names itself. -/
structure Documents where
  print : Data → Fallible String
  parse : String → Fallible Data
  variant : Data → Option String
  variant_str : ∀ name, variant (.str name) = some name
  parseId : String → Option EndpointId
  invalid : String → Failure

def Proto.serialize (proto : Proto) : Data := .str proto.asStr

def Proto.deserialize (documents : Documents) (data : Data) : Option Proto := do
  let name ← documents.variant data
  if name = "tcp" then some .tcp
  else if name = "udp" then some .udp
  else none

/-- An id is its text. -/
def EndpointId.serialize (id : EndpointId) : Data := .str id.text

def EndpointId.deserialize (documents : Documents) (data : Data) : Option EndpointId := do
  documents.parseId (← readStr data)

/-- An entry is enabled unless it says that it is not. -/
def yes : Bool := true

def Offer.serialize (offer : Offer) : Data :=
  writeRecord
    [("proto", always Proto.serialize offer.proto),
      ("port", always writeU16 offer.port),
      ("name", skipIf String.isEmpty .str offer.name),
      ("enabled", always .bool offer.enabled)]

def Offer.deserialize (documents : Documents) (data : Data) : Option Offer := do
  let field ← data.record
  let proto ← required (Proto.deserialize documents) (field "proto" 0)
  let port ← required readU16 (field "port" 1)
  let name ← withDefault readStr "" (field "name" 2)
  let enabled ← withDefault readBool yes (field "enabled" 3)
  some { proto, port, name, enabled }

def Peer.serialize (peer : Peer) : Data :=
  writeRecord
    [("id", always EndpointId.serialize peer.id),
      ("name", skipIf String.isEmpty .str peer.name),
      ("enabled", always .bool peer.enabled),
      ("offers", skipIf List.isEmpty (writeList Offer.serialize) peer.offers)]

def Peer.deserialize (documents : Documents) (data : Data) : Option Peer := do
  let field ← data.record
  let id ← required (EndpointId.deserialize documents) (field "id" 0)
  let name ← withDefault readStr "" (field "name" 1)
  let enabled ← withDefault readBool yes (field "enabled" 2)
  let offers ← withDefault (readList (Offer.deserialize documents)) [] (field "offers" 3)
  some { id, name, enabled, offers }

def Binding.serialize (binding : Binding) : Data :=
  writeRecord
    [("proto", always Proto.serialize binding.proto),
      ("local", always writeU16 binding.localPort),
      ("remote", always writeU16 binding.remotePort),
      ("name", skipIf String.isEmpty .str binding.name),
      ("enabled", always .bool binding.enabled)]

def Binding.deserialize (documents : Documents) (data : Data) : Option Binding := do
  let field ← data.record
  let proto ← required (Proto.deserialize documents) (field "proto" 0)
  let localPort ← required readU16 (field "local" 1)
  let remotePort ← required readU16 (field "remote" 2)
  let name ← withDefault readStr "" (field "name" 3)
  let enabled ← withDefault readBool yes (field "enabled" 4)
  some { proto, localPort, remotePort, name, enabled }

def ServeConfig.serialize (serve : ServeConfig) : Data :=
  writeRecord
    [("shared", always (writeList Offer.serialize) serve.shared),
      ("peers", always (writeList Peer.serialize) serve.peers)]

def ServeConfig.deserialize (documents : Documents) (data : Data) : Option ServeConfig := do
  let field ← data.record
  let shared ← withDefault (readList (Offer.deserialize documents)) [] (field "shared" 0)
  let peers ← withDefault (readList (Peer.deserialize documents)) [] (field "peers" 1)
  some { shared, peers }

def ConnectConfig.serialize (connect : ConnectConfig) : Data :=
  writeRecord [("bindings", always (writeList Binding.serialize) connect.bindings)]

def ConnectConfig.deserialize (documents : Documents) (data : Data) : Option ConnectConfig := do
  let field ← data.record
  let bindings ← withDefault (readList (Binding.deserialize documents)) [] (field "bindings" 0)
  some { bindings }

def Config.serialize (config : Config) : Data :=
  writeRecord
    [("serve", always ServeConfig.serialize config.serve),
      ("connect", always ConnectConfig.serialize config.connect)]

/-- A section that is not there is that of the default configuration. -/
def Config.deserialize (documents : Documents) (data : Data) : Option Config := do
  let field ← data.record
  let serve ← withDefault (ServeConfig.deserialize documents) Config.default.serve (field "serve" 0)
  let connect ←
    withDefault (ConnectConfig.deserialize documents) Config.default.connect (field "connect" 1)
  some { serve, connect }

/-- The text layer that the crate and the attributes make. -/
def Documents.toml (documents : Documents) : Toml where
  toStringPretty config := documents.print config.serialize
  fromStr document := do
    let data ← documents.parse document
    (Config.deserialize documents data).elim (.error (documents.invalid document)) .ok

/-- What is assumed of the crate and of the ids for one configuration: its data
come back from the text below the comment, and its ids from their text. -/
structure Documents.Lossless (documents : Documents) (config : Config) : Prop where
  text : ∃ text, documents.print config.serialize = .ok text ∧
    documents.parse (fileHeader ++ text) = .ok config.serialize
  ids : ∀ peer ∈ config.serve.peers, documents.parseId peer.id.text = some peer.id

section Records

variable (documents : Documents)

/-- A protocol is written as one of two words, and each word is read back as its
protocol. -/
theorem Proto.keeps (proto : Proto) : Keeps Proto.serialize (Proto.deserialize documents) proto := by
  unfold Keeps Proto.serialize Proto.deserialize
  rw [documents.variant_str]
  cases proto <;> rfl

/-- An id is written as its text; reading it back is up to the parser of ids, which
is assumed to know the texts of ids. -/
theorem EndpointId.keeps (id : EndpointId) (parsed : documents.parseId id.text = some id) :
    Keeps EndpointId.serialize (EndpointId.deserialize documents) id := parsed

/-- A name is skipped when it is the empty one, which is the default: a file that
has no `name` line is read as having the empty name, so nothing is lost. -/
theorem name_kept (name : String) :
    withDefault readStr "" (skipIf String.isEmpty .str name) = some name :=
  (withDefault_skipIf "" String.isEmpty (keeps_str name)).mpr String.isEmpty_iff.mp

/-- An offer is kept. An empty name is not written, and a name that is missing is
read as the empty one. -/
theorem Offer.keeps (offer : Offer) : Keeps Offer.serialize (Offer.deserialize documents) offer := by
  have proto := required_always (offer.proto.keeps documents)
  have port := required_always (keeps_u16 offer.port)
  have name := name_kept offer.name
  have enabled := withDefault_always yes (keeps_bool offer.enabled)
  simp [Keeps, Offer.serialize, Offer.deserialize, record_writeRecord, List.lookup_cons, proto,
    port, name, enabled]

/-- Both lists of offers: the one that is always written, and the one that is
skipped when it is empty, which is its default. -/
theorem offers_keep (offers : List Offer) :
    Keeps (writeList Offer.serialize) (readList (Offer.deserialize documents)) offers :=
  keeps_list offers (fun offer _ => offer.keeps documents)

/-- The own offers of a peer are kept, also if there are none: then the field is
not written, and its default is read. -/
theorem offers_kept (offers : List Offer) :
    withDefault (readList (Offer.deserialize documents)) []
      (skipIf List.isEmpty (writeList Offer.serialize) offers) = some offers :=
  (withDefault_skipIf [] List.isEmpty (offers_keep documents offers)).mpr List.isEmpty_iff.mp

/-- A peer is kept if its id is. Its name and its own offers may be left out, each
for the value that is its default. -/
theorem Peer.keeps (peer : Peer) (parsed : documents.parseId peer.id.text = some peer.id) :
    Keeps Peer.serialize (Peer.deserialize documents) peer := by
  have id := required_always (EndpointId.keeps documents peer.id parsed)
  have name := name_kept peer.name
  have enabled := withDefault_always yes (keeps_bool peer.enabled)
  have offers := offers_kept documents peer.offers
  simp [Keeps, Peer.serialize, Peer.deserialize, record_writeRecord, List.lookup_cons, id, name,
    enabled, offers]

/-- A binding is kept: both ports are always written, its name only if it has
one. -/
theorem Binding.keeps (binding : Binding) :
    Keeps Binding.serialize (Binding.deserialize documents) binding := by
  have proto := required_always (binding.proto.keeps documents)
  have localPort := required_always (keeps_u16 binding.localPort)
  have remotePort := required_always (keeps_u16 binding.remotePort)
  have name := name_kept binding.name
  have enabled := withDefault_always yes (keeps_bool binding.enabled)
  simp [Keeps, Binding.serialize, Binding.deserialize, record_writeRecord, List.lookup_cons, proto,
    localPort, remotePort, name, enabled]

/-- The serving section is kept. Both of its lists are always written, even if
they are empty. -/
theorem ServeConfig.keeps (serve : ServeConfig)
    (parsed : ∀ peer ∈ serve.peers, documents.parseId peer.id.text = some peer.id) :
    Keeps ServeConfig.serialize (ServeConfig.deserialize documents) serve := by
  have shared := withDefault_always [] (offers_keep documents serve.shared)
  have peers := withDefault_always [] (keeps_list serve.peers
    (fun peer member => peer.keeps documents (parsed peer member)))
  simp [Keeps, ServeConfig.serialize, ServeConfig.deserialize, record_writeRecord,
    List.lookup_cons, shared, peers]

/-- So is the connecting section, and so the section of the role that is not
running survives a save. -/
theorem ConnectConfig.keeps (connect : ConnectConfig) :
    Keeps ConnectConfig.serialize (ConnectConfig.deserialize documents) connect := by
  have bindings := withDefault_always [] (keeps_list connect.bindings
    (fun binding _ => binding.keeps documents))
  simp [Keeps, ConnectConfig.serialize, ConnectConfig.deserialize, record_writeRecord,
    List.lookup_cons, bindings]

/-- What is written for a configuration reads back as it, key by key. The ids of
the peers are the one place where the reading depends on more than the shape of
the value. -/
theorem Config.keeps (config : Config)
    (parsed : ∀ peer ∈ config.serve.peers, documents.parseId peer.id.text = some peer.id) :
    Keeps Config.serialize (Config.deserialize documents) config := by
  have serve := withDefault_always Config.default.serve (config.serve.keeps documents parsed)
  have connect := withDefault_always Config.default.connect (config.connect.keeps documents)
  simp [Keeps, Config.serialize, Config.deserialize, record_writeRecord, List.lookup_cons, serve,
    connect]

end Records

section File

variable {documents : Documents} {config : Config} (lossless : documents.Lossless config)

include lossless

/-- A lossless configuration is written, and what is written is read as it. This
is the round trip of the file's contents, before any disk comes into play. -/
theorem Documents.Lossless.written : ∃ body, fileBody documents.toml config = .ok body ∧
    documents.toml.fromStr body = .ok config := by
  obtain ⟨text, printed, parsed⟩ := lossless.text
  have kept : Config.deserialize documents config.serialize = some config :=
    config.keeps documents lossless.ids
  refine ⟨fileHeader ++ text, ?_, ?_⟩
  · simp only [fileBody, Documents.toml, printed]
    rfl
  · simp only [Documents.toml, parsed]
    change (Config.deserialize documents config.serialize).elim _ _ = _
    rw [kept]
    rfl

/-- Whatever a save of it has left is loaded as it: the same round trip through
the disk, for any disk that holds the file of the configuration. -/
theorem Documents.Lossless.loaded_of_holds (path : ConfigPath) (disk : Disk)
    (holds : Holds documents.toml disk config) : load documents.toml path disk = .ok config := by
  obtain ⟨wellFormed, body, serialised, stored⟩ := holds
  obtain ⟨written, isBody, parsed⟩ := lossless.written
  obtain rfl : written = body := Except.ok.inj (isBody.symm.trans serialised)
  rw [load_document documents.toml path disk written config config stored parsed]
  exact ⟨config.validate_ok_iff.mpr wellFormed, rfl⟩

end File

/-- The file loses nothing of a configuration that the crate and its ids keep. If
it is valid, it is saved and loaded as it is; whatever a save has written is
loaded again; saving refuses it exactly where loading a file that says the same
does; and if it is what any file content was loaded as, saving it and loading it
again gives the same. -/
theorem config_file_loses_nothing (documents : Documents) (path : ConfigPath) (dir : String)
    (inDir : path.parent = some dir) (config : Config) (lossless : documents.Lossless config)
    (fs : Fs) :
    let saved := save documents.toml path config .success fs
    (config.validate = .ok () →
      saved.1 = .ok () ∧ load documents.toml path saved.2.disk = .ok config) ∧
    (∀ outcomes, (save documents.toml path config outcomes fs).1 = .ok () →
      load documents.toml path (save documents.toml path config outcomes fs).2.disk = .ok config) ∧
    (∃ document, documents.toml.fromStr document = .ok config) ∧
    (∀ document disk, documents.toml.fromStr document = .ok config →
      disk.file = .bytes document.toByteArray →
        ((∃ failure, saved.1 = .error failure) ↔
          ∃ failure, load documents.toml path disk = .error failure)) ∧
    (∀ disk, load documents.toml path disk = .ok config →
      saved.1 = .ok () ∧ load documents.toml path saved.2.disk = .ok config) := by
  intro saved
  obtain ⟨body, serialised, parsed⟩ := lossless.written
  have saves : saved.1 = .ok () ↔ config.validate = .ok () :=
    save_success_iff documents.toml path config fs dir body inDir serialised
  have reloads (outcomes : Outcomes)
      (succeeded : (save documents.toml path config outcomes fs).1 = .ok ()) :
      load documents.toml path (save documents.toml path config outcomes fs).2.disk = .ok config :=
    lossless.loaded_of_holds path _
      ((save_effect documents.toml path config outcomes fs).saved succeeded)
  have keeps (valid : config.validate = .ok ()) :
      saved.1 = .ok () ∧ load documents.toml path saved.2.disk = .ok config :=
    ⟨saves.mpr valid, reloads .success (saves.mpr valid)⟩
  refine ⟨keeps, reloads, ⟨body, parsed⟩, ?_, ?_⟩
  · intro document disk reads stored
    have loads (loaded : Config) :=
      load_document documents.toml path disk document config loaded stored reads
    have saved_iff : (∃ value, saved.1 = .ok value) ↔ config.validate = .ok () :=
      ⟨fun ⟨_, succeeded⟩ => saves.mp succeeded, fun valid => ⟨(), saves.mpr valid⟩⟩
    have loads_iff : (∃ loaded, load documents.toml path disk = .ok loaded) ↔
        config.validate = .ok () :=
      ⟨fun ⟨loaded, succeeded⟩ => ((loads loaded).mp succeeded).1,
        fun valid => ⟨config, (loads config).mpr ⟨valid, rfl⟩⟩⟩
    rw [Fallible.failed_iff, Fallible.failed_iff, saved_iff, loads_iff]
  · intro disk loaded
    exact keeps (config.validate_ok_iff.mpr (load_wellFormed documents.toml path disk config loaded))

/-- A file written by hand: the peers, the connecting side and the flag are left
out. -/
def handWritten : String := "[[serve.shared]]\nproto = \"tcp\"\nport = 22\nname = \"ssh\"\n"

/-- What it says. -/
def handWrittenData : Data :=
  writeRecord
    [("serve", some (writeRecord
      [("shared", some (.array [writeRecord
        [("proto", some (.str "tcp")), ("port", some (.integer 22)), ("name", some (.str "ssh"))]]))]))]

/-- A crate that knows no text, and reads enumerations from strings. -/
def noDocuments : Documents where
  print _ := .error (.message "unsupported value")
  parse _ := .error (.message "TOML parse error")
  variant := readStr
  variant_str _ := rfl
  parseId _ := none
  invalid _ := .message "TOML parse error"

/-- A crate that knows the document of one configuration, and the file written by
hand. -/
def sshDocuments : Documents :=
  { noDocuments with
    print := fun data =>
      if Config.deserialize noDocuments data = some sshOffered then .ok sshText
      else .error (.message "unsupported value")
    parse := fun document =>
      if document = fileHeader ++ sshText then .ok sshOffered.serialize
      else if document = handWritten then .ok handWrittenData
      else .error (.message "TOML parse error") }

/-- The file written by hand is loaded, saved and loaded again. It leaves out what
has a default, and the configuration that it stands for is the same before and
after the save. -/
theorem hand_written_file_kept :
    let path := configPath "/var/lib/rtun"
    let disk : Disk := { file := .bytes handWritten.toByteArray, tmp := none }
    let saved := save sshDocuments.toml path sshOffered .success (.start disk)
    load sshDocuments.toml path disk = .ok sshOffered ∧
      saved.1 = .ok () ∧ load sshDocuments.toml path saved.2.disk = .ok sshOffered := by
  intro path disk saved
  have lossless : sshDocuments.Lossless sshOffered := by
    refine ⟨⟨sshText, ?_, ?_⟩, ?_⟩
    · have kept : Config.deserialize noDocuments sshOffered.serialize = some sshOffered :=
        sshOffered.keeps noDocuments (fun peer member => by cases member)
      simp [sshDocuments, kept]
    · simp [sshDocuments]
    · intro peer member
      cases member
  have parsed : sshDocuments.parse handWritten = .ok handWrittenData := by
    have other : handWritten ≠ fileHeader ++ sshText := by decide
    simp [sshDocuments, other]
  have reads : sshDocuments.toml.fromStr handWritten = .ok sshOffered := by
    simp only [Documents.toml, parsed]
    rfl
  have loaded : load sshDocuments.toml path disk = .ok sshOffered :=
    (load_document _ path disk handWritten sshOffered sshOffered rfl reads).mpr ⟨by decide, rfl⟩
  obtain ⟨_, _, _, _, again⟩ := config_file_loses_nothing sshDocuments path "/var/lib/rtun" rfl
    sshOffered lossless (.start disk)
  exact ⟨loaded, again disk loaded⟩

end Rtun
