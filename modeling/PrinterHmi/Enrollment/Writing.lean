import PrinterHmi.Enrollment.Outcomes
import PrinterHmi.Lib.Faults
import PrinterHmi.Lib.JsonIndent
import PrinterHmi.Sample

/-!
# What a write puts down

`_write_json` writes a document to a temporary file, which replaces the document's
own in the last step (`writeJsonFile`). The replacement is atomic; the write before
it is not: `os.write` may put down a part of what it is given, and its count is not
looked at. An object that has lost its end is no document any more
(`Json.loads_prefix`), so the file that is then put in place cannot be read.

A write returns with a file that reads back exactly if it has put down everything
but the final line break, and a write that raises leaves the file alone
(`writeSafe_iff`). Hence the two files of a store can be read after any run of its
operations, ended anywhere, as long as no write falls short
(`DiskRun.intact`).
-/

namespace PrinterHmi

/-! ### The bytes of a document -/

/-- A document as the store writes it: an object in normal form. -/
abbrev Document := { d : Json // d.isObj = true ∧ d.ordered = true }

/-- `json.dumps(document, indent=2, sort_keys=True) + "\n"`. -/
def documentText (document : Document) : List Char := document.1.indented 0 ++ ['\n']

/-- The bytes `_write_json` writes. -/
def payloadOf (document : Document) : Bytes := utf8 (String.ofList (documentText document))

/-- `json.loads(path.read_text(encoding="utf-8"))`. -/
def loadDocument (b : Bytes) : Option Json := (utf8? b).bind fun s => Json.loads s.toList

/-- What `os.write` may answer for the bytes of a document, if it does not raise: it has put
down at least one byte, and no more than there are. -/
def MayWrite (document : Document) (count : ℕ) : Prop :=
  1 ≤ count ∧ count ≤ (payloadOf document).length

/-- Nothing is missing but the final line break, if anything is. -/
def WritesWhole (document : Document) (count : ℕ) : Prop :=
  (payloadOf document).length ≤ count + 1

/-! ### A part of it -/

theorem ascii_documentText (document : Document) : Json.Ascii (documentText document) :=
  (Json.ascii_indented document.1 0).append (.cons (by decide) fun _ h => by cases h)

theorem length_payloadOf (document : Document) :
    (payloadOf document).length = (document.1.indented 0).length + 1 := by
  rw [payloadOf, utf8_ascii (ascii_documentText document), List.length_map, documentText,
    List.length_append]
  rfl

/-- The first bytes of a document are its first characters. -/
theorem payloadOf_take (document : Document) (count : ℕ) :
    (payloadOf document).take count =
      utf8 (String.ofList ((documentText document).take count)) := by
  have hpart : Json.Ascii ((documentText document).take count) :=
    fun c hc => ascii_documentText document c (List.mem_of_mem_take hc)
  rw [payloadOf, utf8_ascii (ascii_documentText document), utf8_ascii hpart, List.map_take]

/-- So it is these characters that are read. -/
theorem loadDocument_take (document : Document) (count : ℕ) :
    loadDocument ((payloadOf document).take count) =
      Json.loads ((documentText document).take count) := by
  rw [loadDocument, payloadOf_take, utf8?_utf8, Option.bind_some, String.toList_ofList]

/-- **A part of a document reads back as the document** if nothing is missing but the final
line break. -/
theorem loadDocument_whole {document : Document} {count : ℕ} (h : WritesWhole document count) :
    loadDocument ((payloadOf document).take count) = some document.1 := by
  rw [WritesWhole, length_payloadOf] at h
  rw [loadDocument_take, documentText, List.take_append, List.take_of_length_le (by omega)]
  obtain hnone | hbreak : count - (document.1.indented 0).length = 0 ∨
      1 ≤ count - (document.1.indented 0).length := by omega
  · rw [hnone]
    exact Json.loads_indented document.2.2 rfl Json.stops_nil
  · rw [List.take_of_length_le hbreak]
    exact Json.loads_indented document.2.2 rfl (Json.stops_cons (by decide))

/-- **Any other part of it does not read.** -/
theorem loadDocument_short {document : Document} {count : ℕ} (h : ¬ WritesWhole document count) :
    loadDocument ((payloadOf document).take count) = none := by
  obtain ⟨fields, hfields⟩ := Json.isObj_iff.mp document.2.1
  have hordered := document.2.2
  rw [WritesWhole, length_payloadOf, hfields] at h
  rw [hfields] at hordered
  rw [loadDocument_take, documentText, hfields, List.take_append_of_le_length (by omega)]
  refine Json.loads_prefix hordered (List.take_append_drop count _).symm fun hdrop => ?_
  have hlen := List.drop_eq_nil_iff.mp hdrop
  omega

/-! ### A write -/

/-- A file and the temporary file that is to replace it. -/
structure FilePair where
  target : Option Bytes
  temporary : Option Bytes

/-- **`_write_json`**, where `os.write` answers `count` unless it raises. -/
def writeJsonFile (document : Document) (count : ℕ) : FileProg FilePair Exn Unit := do
  FileProg.fileStep (osError "open") fun f => { f with temporary := some [] }
  FileProg.tryFinally
    (do
      FileProg.fileStep (osError "write") fun f =>
        { f with temporary := f.temporary.map (· ++ (payloadOf document).take count) }
      FileProg.fileStep (osError "fsync") id)
    (FileProg.fileStep (osError "close") id)
  FileProg.fileStep (osError "chmod") id
  FileProg.fileStep (osError "replace") fun f => ⟨f.temporary, none⟩

/-- The number of its steps. -/
def writeSteps : ℕ := 6

section Write

variable {document : Document} {count : ℕ} {o : ℕ → Bool} {f : FilePair}

/-- A step of it that fails raises, and changes nothing. -/
theorem strict_writeJsonFile (document : Document) (count : ℕ) :
    (writeJsonFile document count).Strict := by
  refine .bind (FileProg.strict_fileStep _ _) fun _ => .bind ?_ fun _ =>
    .bind (FileProg.strict_fileStep _ _) fun _ => FileProg.strict_fileStep _ _
  exact .tryFinally (.bind (FileProg.strict_fileStep _ _) fun _ => FileProg.strict_fileStep _ _) _

/-- No step before the last one touches the file. -/
theorem target_of_mem_stages {g : FilePair} (h : g ∈ (writeJsonFile document count).stages f) :
    g.target = f.target := by
  have hstages : (writeJsonFile document count).stages f =
      [f, ⟨f.target, some []⟩, ⟨f.target, some ([] ++ (payloadOf document).take count)⟩,
        ⟨f.target, some ([] ++ (payloadOf document).take count)⟩,
        ⟨f.target, some ([] ++ (payloadOf document).take count)⟩,
        ⟨f.target, some ([] ++ (payloadOf document).take count)⟩] := rfl
  rw [hstages] at h
  simp only [List.mem_cons, List.not_mem_nil, or_false] at h
  rcases h with rfl | rfl | rfl | rfl | rfl | rfl <;> rfl

/-- **A write** raises at a step that fails, and leaves the file; or no step fails, and what
was written is in place. -/
theorem writeJsonFile_cases (document : Document) (count : ℕ) (o : ℕ → Bool) (f : FilePair) :
    (∃ k < writeSteps, o k = true ∧ ∃ e g, (writeJsonFile document count).run o f = (.error e, g) ∧
        g.target = f.target) ∨
      ((∀ k < writeSteps, o k = false) ∧ (writeJsonFile document count).run o f =
        (.ok (), ⟨some ((payloadOf document).take count), none⟩)) := by
  rcases (strict_writeJsonFile document count).run_cases o f with
    ⟨k, e, hk, hstop, herror⟩ | ⟨hnone, hexec⟩
  · have hlt : k < writeSteps := (List.getElem?_eq_some_iff.mp hk).1
    exact .inl ⟨k, hlt, hstop.1.resolve_right (by simp), e, _, Prod.ext herror rfl,
      target_of_mem_stages (List.mem_of_getElem? hk)⟩
  · exact .inr ⟨hnone, hexec⟩

/-- A write that no step of fails. -/
theorem writeJsonFile_returns (h : ∀ k, o k = false) (f : FilePair) :
    (writeJsonFile document count).run o f =
      (.ok (), ⟨some ((payloadOf document).take count), none⟩) := by
  rcases writeJsonFile_cases document count o f with ⟨k, -, hk, -⟩ | ⟨-, hrun⟩
  · rw [h k] at hk
    cases hk
  · exact hrun

/-- **What is asked of a write**: if it returns, the file reads back as the document, and if it
raises, the file is as it was. -/
def WriteSafe (document : Document) (count : ℕ) (o : ℕ → Bool) (f : FilePair) : Prop :=
  let out := (writeJsonFile document count).run o f
  (out.1 = .ok () → out.2.target.bind loadDocument = some document.1) ∧
    ∀ e, out.1 = .error e → out.2.target = f.target

/-- **A write is safe** exactly if a step of it fails, or nothing is missing but the final line
break. -/
theorem writeSafe_iff (document : Document) (count : ℕ) (o : ℕ → Bool) (f : FilePair) :
    WriteSafe document count o f ↔
      (∃ k < writeSteps, o k = true) ∨ WritesWhole document count := by
  rw [WriteSafe]
  rcases writeJsonFile_cases document count o f with
    ⟨k, hk, hok, e, g, hrun, htarget⟩ | ⟨hnone, hrun⟩
  · simp only [hrun]
    exact ⟨fun _ => .inl ⟨k, hk, hok⟩, fun _ => ⟨nofun, fun _ _ => htarget⟩⟩
  · simp only [hrun, Option.bind_some]
    constructor
    · rintro ⟨hreads, -⟩
      by_contra hnot
      rw [not_or] at hnot
      have hread := hreads trivial
      rw [loadDocument_short hnot.2] at hread
      cases hread
    · rintro (⟨k, hk, hok⟩ | hwhole)
      · rw [hnone k hk] at hok
        cases hok
      · exact ⟨fun _ => loadDocument_whole hwhole, nofun⟩

end Write

/-! ### The documents of a store -/

section Documents

variable (epoch : Time → Json.FloatText)

/-- What `_generate_identity_locked` writes. -/
def Identity.fields (identity : Identity) : List (String × Json) :=
  [("algorithm", .str "Ed25519"), ("created_at", .str identity.createdAt),
    ("device_id", .str identity.deviceId), ("fingerprint", .str identity.fingerprint),
    ("generation", .int identity.generation), ("private_key", .str identity.privateKey),
    ("public_key", .str identity.publicKey), ("schema_version", schemaVersion)]

/-- An offer, as `create_pairing` puts it into the state. -/
def Pairing.document (pairing : Pairing) : Json :=
  .obj [("attempts_remaining", .int pairing.attemptsRemaining),
    ("code_digest", .str pairing.codeDigest), ("created_at", .str pairing.createdAt),
    ("expires_at", .str pairing.expiresAt), ("expires_epoch", .float (epoch pairing.expiresEpoch)),
    ("salt", .str pairing.salt)]

/-- A used challenge, as `complete_relay_enrollment` puts it into the state. -/
def UsedChallenge.document (used : UsedChallenge) : Json :=
  .obj [("expires_epoch", .float (epoch used.expiresEpoch)), ("relay_id", .str used.relayId),
    ("used_at", .str used.usedAt)]

/-- A dictionary of the state. -/
def dictDocument {V : Type} (toJson : V → Json) (d : Dict String V) : Json :=
  .obj (d.filterMap fun _ v => some (toJson v)).entries

/-- What is written to `state.json`. -/
def StoreState.fields (state : StoreState) : List (String × Json) :=
  [("pairings", dictDocument (Pairing.document epoch) state.pairings),
    ("peers", dictDocument publicPeer state.peers), ("schema_version", schemaVersion),
    ("used_challenges", dictDocument (UsedChallenge.document epoch) state.usedChallenges)]

theorem ordered_identity (identity : Identity) : (Json.obj identity.fields).ordered = true := by
  have hnames : ["algorithm", "created_at", "device_id", "fingerprint", "generation",
      "private_key", "public_key", "schema_version"].Pairwise (· < ·) := by decide
  exact Json.ordered_obj.mpr ⟨hnames, by simp [Identity.fields, Json.ordered, schemaVersion]⟩

theorem ordered_pairing (pairing : Pairing) : (pairing.document epoch).ordered = true := by
  have hnames : ["attempts_remaining", "code_digest", "created_at", "expires_at",
      "expires_epoch", "salt"].Pairwise (· < ·) := by decide
  exact Json.ordered_obj.mpr ⟨hnames, by simp [Json.ordered]⟩

theorem ordered_used (used : UsedChallenge) : (used.document epoch).ordered = true := by
  have hnames : ["expires_epoch", "relay_id", "used_at"].Pairwise (· < ·) := by decide
  exact Json.ordered_obj.mpr ⟨hnames, by simp [Json.ordered]⟩

theorem ordered_publicPeer (peer : Peer) : (publicPeer peer).ordered = true := by
  have hnames : ["fingerprint", "paired_at", "peer_id", "public_key", "revoked_at"].Pairwise
      (· < ·) := by decide
  refine Json.ordered_obj.mpr ⟨hnames, ?_⟩
  cases peer.revokedAt <;> simp [Json.ordered]

theorem ordered_dictDocument {V : Type} {toJson : V → Json} (h : ∀ v, (toJson v).ordered = true)
    (d : Dict String V) : (dictDocument toJson d).ordered = true := by
  refine Json.ordered_obj.mpr ⟨(d.filterMap _).sorted, fun e he => ?_⟩
  have hget := Dict.mem_entries_iff.mp he
  rw [Dict.get?_filterMap] at hget
  obtain ⟨v, -, hv⟩ := Option.bind_eq_some_iff.mp hget
  rw [← Option.some.inj hv]
  exact h v

theorem ordered_state (state : StoreState) : (Json.obj (state.fields epoch)).ordered = true := by
  have hnames : ["pairings", "peers", "schema_version", "used_challenges"].Pairwise (· < ·) := by
    decide
  refine Json.ordered_obj.mpr ⟨hnames, ?_⟩
  simp [StoreState.fields, ordered_dictDocument, ordered_pairing, ordered_used,
    ordered_publicPeer, Json.ordered, schemaVersion]

/-- The document of `identity.json`. -/
def Identity.document (identity : Identity) : Document :=
  ⟨.obj identity.fields, rfl, ordered_identity identity⟩

/-- The document of `state.json`. -/
def StoreState.document (state : StoreState) : Document :=
  ⟨.obj (state.fields epoch), rfl, ordered_state epoch state⟩

/-- The document `identity.json` is to hold, if there is one. -/
def Host.identityDocument (h : Host) : Option Document := h.identity.map Identity.document

/-- The document `state.json` is to hold, if there is one. -/
def Host.stateDocument (h : Host) : Option Document := h.state.map (StoreState.document epoch)

end Documents

/-! ### Runs of a store on its files -/

/-- A host, and its two documents as they are on the disk. -/
structure OnDisk where
  host : Host
  identityFile : Option Bytes
  stateFile : Option Bytes

/-- A directory without files. -/
def OnDisk.fresh : OnDisk := ⟨.fresh, none, none⟩

/-- A file holds a document: it is there if the document is, and reads back as it. -/
def Holds (document : Option Document) (file : Option Bytes) : Prop :=
  file.map loadDocument = document.map fun d => some d.1

/-- **What a step of the store does to a file**, whose document it may change: nothing, if the
document stays the same; or a write of the new document has returned. A document that stays
the same may be written again. What `os.write` may answer is `W`. -/
inductive FileChange (W : Document → ℕ → Prop) (old new : Option Document) (file : Option Bytes) :
    Option Bytes → Prop
  | kept (hnew : new = old) : FileChange W old new file file
  | written {document : Document} {count : ℕ} {o : ℕ → Bool} {f g : FilePair}
      (hnew : new = some document) (hcount : W document count) (hfile : f.target = file)
      (hrun : (writeJsonFile document count).run o f = (.ok (), g)) :
      FileChange W old new file g.target

section Runs

variable (P : Platform) (epoch : Time → Json.FloatText) (W : Document → ℕ → Prop)

/-- A step of the store, on its files. -/
structure Changes (x : OnDisk) (f : Host → Host) (y : OnDisk) : Prop where
  host : y.host = f x.host
  identity : FileChange W x.host.identityDocument y.host.identityDocument x.identityFile
    y.identityFile
  state : FileChange W (x.host.stateDocument epoch) (y.host.stateDocument epoch) x.stateFile
    y.stateFile

/-- **A program of the store goes through these files**, until it ends or is ended. -/
inductive Goes {α : Type} : StoreProg α → OnDisk → OnDisk → Prop
  | ends {p x} : Goes p x x
  | read {k x y} (h : Goes (k x.host) x y) : Goes (.read k) x y
  | note {f p x x' y} (hx : Changes epoch W x f x') (h : Goes p x' y) : Goes (.note f p) x y
  | step {f p q x x' y} (hx : Changes epoch W x f x') (h : Goes p x' y) : Goes (.step f p q) x y
  | fails {f p q x y} (h : Goes q x y) : Goes (.step f p q) x y

/-- **Runs of a store on its files**: any operations, one after the other, each with any of its
file steps failing, and each ended anywhere. As long as the files hold the documents, what an
operation reads is the host. -/
inductive DiskRun : OnDisk → Prop
  | start : DiskRun .fresh
  | call {x y : OnDisk} (hx : DiskRun x) (c : Invocation)
      (hc : Goes epoch W (c.call.program P c.env) x y) : DiskRun y

variable {P epoch W} {x y : OnDisk}

/-- A file that holds its document holds the new one, if no write falls short. -/
theorem Holds.change {old new : Option Document} {file file' : Option Bytes}
    (h : Holds old file) (hchange : FileChange WritesWhole old new file file') :
    Holds new file' := by
  cases hchange with
  | kept hnew =>
    rw [hnew]
    exact h
  | @written document count o f g hnew hcount hfile hrun =>
    rcases writeJsonFile_cases document count o f with ⟨-, -, -, e, g', herror, -⟩ | ⟨-, hok⟩
    · rw [herror] at hrun
      cases hrun
    · rw [hok] at hrun
      cases hrun
      rw [hnew]
      exact congrArg some (loadDocument_whole hcount)

/-- **Both files hold their documents.** -/
def OnDisk.Intact (epoch : Time → Json.FloatText) (x : OnDisk) : Prop :=
  Holds x.host.identityDocument x.identityFile ∧ Holds (x.host.stateDocument epoch) x.stateFile

theorem OnDisk.Intact.change {f : Host → Host} (h : x.Intact epoch)
    (hchange : Changes epoch WritesWhole x f y) : y.Intact epoch :=
  ⟨h.1.change hchange.identity, h.2.change hchange.state⟩

/-- **An operation keeps them**, wherever it ends. -/
theorem OnDisk.Intact.goes {α : Type} {p : StoreProg α} (h : x.Intact epoch)
    (hp : Goes epoch WritesWhole p x y) : y.Intact epoch := by
  induction hp with
  | ends => exact h
  | read _ ih => exact ih h
  | note hx _ ih => exact ih (h.change hx)
  | step hx _ ih => exact ih (h.change hx)
  | fails _ ih => exact ih h

/-- **Both files can be read** after any run of operations in which no write falls short. -/
theorem DiskRun.intact (h : DiskRun P epoch WritesWhole x) : x.Intact epoch := by
  induction h with
  | start => exact ⟨rfl, rfl⟩
  | call _ c hc ih => exact ih.goes hc

/-- **The two files of a store can be read.** A write of a document is safe exactly if a step of
it fails, or nothing is missing but the final line break; and after any run of operations in
which no write falls short, each of them failing or ended anywhere, both files are there if
their documents are, and read back as these. -/
theorem enrollment_files_load :
    (∀ (document : Document) (count : ℕ) (o : ℕ → Bool) (f : FilePair),
      WriteSafe document count o f ↔
        (∃ k < writeSteps, o k = true) ∨ WritesWhole document count) ∧
    ∀ x, DiskRun P epoch WritesWhole x → x.Intact epoch :=
  ⟨writeSafe_iff, fun _ h => h.intact⟩

/-! ### A directory with an identity -/

/-- A step that leaves the documents leaves the files. -/
theorem changes_id (x : OnDisk) : Changes epoch W x id x := ⟨rfl, .kept rfl, .kept rfl⟩

variable (epoch) in
/-- **An identity is asked for** in a directory without files, and `count` of its bytes are
written. -/
theorem diskRun_identity (env : Supply) {count : ℕ}
    (hcount : W (newIdentity P env.initial 1).document count) :
    ∃ x, DiskRun P epoch W x ∧ x.identityFile =
      some ((payloadOf (newIdentity P env.initial 1).document).take count) := by
  have hwrite : Changes epoch W OnDisk.fresh
      (fun h => { h with identity := some (newIdentity P env.initial 1) })
      ⟨{ Host.fresh with identity := some (newIdentity P env.initial 1) },
        some ((payloadOf (newIdentity P env.initial 1).document).take count), none⟩ :=
    ⟨rfl, .written rfl hcount rfl
      (writeJsonFile_returns (o := fun _ => false) (fun _ => rfl) ⟨none, none⟩), .kept rfl⟩
  refine ⟨⟨{ Host.fresh with identity := some (newIdentity P env.initial 1) }, _, none⟩,
    .call .start ⟨.identity, env⟩ ?_, rfl⟩
  -- the lock takes five steps, and the write four before the file is replaced
  iterate 5 refine .step (changes_id _) ?_
  refine .read ?_
  iterate 4 refine .step (changes_id _) ?_
  exact .step hwrite .ends

end Runs

/-- How a moment is written as a number. The sample runs write none. -/
def Sample.epoch (_ : Time) : Json.FloatText := ⟨['0', '.', '0'], rfl⟩

open Sample in
/-- **After a sample run** the identity can be read. -/
theorem enrollment_files_load_sample : ∃ x, DiskRun platform epoch WritesWhole x ∧
    ∃ b, x.identityFile = some b ∧ Holds x.host.identityDocument (some b) := by
  obtain ⟨x, hx, hfile⟩ := diskRun_identity (P := platform) (W := WritesWhole) epoch
    (supply (moment 0) pairingId) (Nat.le_add_right _ 1)
  refine ⟨x, hx, _, hfile, ?_⟩
  rw [← hfile]
  exact (enrollment_files_load.2 x hx).1

/-! ### A short write -/

/-- The text of an identity is longer than two characters. -/
theorem not_writesWhole_identity (identity : Identity) : ¬ WritesWhole identity.document 1 := by
  have hsize := (Json.size_le_length (.obj identity.fields)).trans
    (Json.length_encode_le_indented (.obj identity.fields) 0)
  have hfields : Json.size (.obj identity.fields) = 17 := rfl
  rw [WritesWhole, length_payloadOf]
  have hdocument : identity.document.1 = .obj identity.fields := rfl
  rw [hdocument]
  omega

open Sample in
/-- **A write falls short**, and the identity that replaces the old one cannot be read: a single
byte of it is put down, and no step fails. -/
theorem identity_cut_off :
    (∃ document count f, MayWrite document count ∧
      ¬ WriteSafe document count (fun _ => false) f) ∧
    ∃ x, DiskRun platform epoch MayWrite x ∧
      ∃ b, x.identityFile = some b ∧ loadDocument b = none := by
  have hmay : MayWrite (newIdentity platform (supply (moment 0) pairingId).initial 1).document 1 :=
    ⟨le_rfl, by rw [length_payloadOf]; exact Nat.le_add_left 1 _⟩
  have hshort := not_writesWhole_identity
    (newIdentity platform (supply (moment 0) pairingId).initial 1)
  refine ⟨⟨_, 1, ⟨none, none⟩, hmay, fun hsafe => ?_⟩, ?_⟩
  · rcases (writeSafe_iff _ _ _ _).mp hsafe with ⟨k, -, hk⟩ | hwhole
    · cases hk
    · exact hshort hwhole
  · obtain ⟨x, hx, hfile⟩ := diskRun_identity (P := platform) (W := MayWrite) epoch
      (supply (moment 0) pairingId) hmay
    exact ⟨x, hx, _, hfile, loadDocument_short hshort⟩

end PrinterHmi
