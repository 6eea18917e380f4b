import Mathlib.Data.List.Induction
import Mathlib.Data.List.Sort
import PrinterHmi.Lib.Substitution
import PrinterHmi.Wire

/-!
# The diagnostic report

`collect_diagnostics` asks the local API for its health, the catalog of printers and the latest
snapshots, and makes a report of them that is to name no printer: printers are numbered, and
every text goes through `sanitize_text`, which writes markers over what looks like a URL, an
address, a secret or a path, and over the sensitive values it is given.

The lines of the journal are given the identities in the catalog (`_recent_errors`), and so
none of these can be read in them (`not_reads_sanitizeText`). The errors of the printers are
given none (`_device_summary`): they name no printer where the errors of the snapshots name
none, and an error of plain words is reported as it stands (`identities_redacted`).
-/

namespace PrinterHmi

open Substitution

/-- **The texts of the host**: how a value is spelled, which characters are of which kind, and
the home directory. -/
structure TextPlatform where
  /-- `str(value)`. -/
  pyStr : Json → String
  pyStr_str : ∀ s, pyStr (.str s) = s
  /-- `\s`. -/
  isSpace : Char → Bool
  /-- `\d`. -/
  isDigit : Char → Bool
  /-- `\w`. -/
  isWord : Char → Bool
  /-- Two characters are the same letter, whatever their case. -/
  sameLetter : Char → Char → Bool
  /-- `str(Path.home())`. -/
  home : String

section Sanitize

variable (T : TextPlatform)

/-! ### The patterns -/

/-- A text, character by character. -/
def textPattern (same : Char → Char → Bool) (s : String) : Pattern :=
  s.toList.foldr (fun c r => .seq (.one (same c)) r) .empty

/-- One of some words. -/
def anyWord (same : Char → Char → Bool) (words : List String) : Pattern :=
  words.foldr (fun word r => .alt (textPattern same word) r) .never

/-- `https?://[^\s\"']+`. -/
def urlPattern : Pattern :=
  .seq (textPattern (· == ·) "http") <|
  .seq (.many (textPattern (· == ·) "s") 0 (some 1)) <|
  .seq (textPattern (· == ·) "://") <|
  .many (.one fun c => !(T.isSpace c || c == '"' || c == '\'')) 1 none

/-- `\b(?:\d{1,3}\.){3}\d{1,3}\b`. -/
def ipPattern : Pattern :=
  .seq .boundary <|
  .seq (.many (.seq (.many (.one T.isDigit) 1 (some 3)) (.one (· == '.'))) 3 (some 3)) <|
  .seq (.many (.one T.isDigit) 1 (some 3)) .boundary

/-- `\s*[:=]\s*[^\s,;]+`. -/
def assigned : Pattern :=
  .seq (.many (.one T.isSpace) 0 none) <|
  .seq (.one fun c => c == ':' || c == '=') <|
  .seq (.many (.one T.isSpace) 0 none) <|
  .many (.one fun c => !(T.isSpace c || c == ',' || c == ';')) 1 none

/-- `(?i)\b(api[_-]?key|token|password|secret)\s*[:=]\s*[^\s,;]+`. -/
def credentialPattern : Pattern :=
  .seq .boundary <|
  .seq (.group <|
    .alt (.seq (textPattern T.sameLetter "api") <|
      .seq (.many (.one fun c => c == '_' || c == '-') 0 (some 1)) (textPattern T.sameLetter "key"))
    (anyWord T.sameLetter ["token", "password", "secret"])) <|
  assigned T

/-- `(?i)\b(filename|file|path)\s*[:=]\s*[^\s,;]+`. -/
def filePattern : Pattern :=
  .seq .boundary <|
  .seq (.group (anyWord T.sameLetter ["filename", "file", "path"])) <|
  assigned T

/-- `(?:/[A-Za-z0-9_.@+-]+){2,}`. -/
def pathPattern : Pattern :=
  .many (.seq (.one (· == '/')) <|
    .many (.one fun c => c.isAlphanum || c ∈ ['_', '.', '@', '+', '-']) 1 none) 2 none

/-- `(?i)\b(error|warning|failed|exception|traceback|denied|timeout)\b`. -/
def interestingPattern : Pattern :=
  .seq .boundary <|
  .seq (.group (anyWord T.sameLetter
    ["error", "warning", "failed", "exception", "traceback", "denied", "timeout"])) .boundary

/-! ### Sanitizing a text -/

/-- `MAX_ERROR_LENGTH`. -/
def maxErrorLength : ℕ := 500

/-- `MAX_ERROR_LINES`. -/
def maxErrorLines : ℕ := 20

/-- `text.replace(old, new)`. -/
def replaceText (old marker : String) (text : List Char) : List Char :=
  sub (literal old.toList) marker.toList none 0 text

/-- `substitutions`: each with its marker, and whether the group is kept before it. -/
def substitutions : List (Pattern × Bool × String) :=
  [(urlPattern T, false, "<URL>"), (ipPattern T, false, "<IP>"),
    (credentialPattern T, true, "=<REDACTED>"), (filePattern T, true, "=<REDACTED>"),
    (pathPattern, false, "<PATH>")]

/-- `re.sub(pattern, replacement, text)`. -/
def subPattern (text : List Char) (substitution : Pattern × Bool × String) : List Char :=
  sub (substitution.1.matcher T.isWord substitution.2.1) substitution.2.2.toList none 0 text

/-- What `sanitize_text` does whatever the sensitive values are. -/
def genericText (text : List Char) : List Char :=
  let text := if T.home ≠ "" ∧ T.home ≠ "/" then replaceText T.home "<HOME>" text else text
  ((substitutions T).foldl (subPattern T) text).take maxErrorLength

/-- The sensitive values, the longest first. -/
def sortedSensitive (sensitive : List Json) : List String :=
  ((sensitive.filter Json.truthy).map T.pyStr).insertionSort fun a b =>
    b.toList.length ≤ a.toList.length

/-- `sanitize_text`, on the text of a value. -/
def sanitizeText (text : String) (sensitive : List Json) : String :=
  String.ofList (genericText T ((sortedSensitive T sensitive).foldl
    (fun text value => replaceText value "<REDACTED>" text) text.toList))

/-! ### The journal -/

/-- The characters a line ends at. -/
def isLineBreak (c : Char) : Bool :=
  c ∈ ['\n', '\r', '\x0b', '\x0c', '\x1c', '\x1d', '\x1e', '\u0085', '\u2028', '\u2029']

/-- The lines of a text, of whose first line some has been read. -/
def splitLines (line : List Char) : List Char → List String
  | [] => if line = [] then [] else [String.ofList line]
  | [c] => if isLineBreak c then [String.ofList line] else [String.ofList (line ++ [c])]
  | c :: c' :: t =>
    if c = '\r' ∧ c' = '\n' then String.ofList line :: splitLines [] t
    else if isLineBreak c then String.ofList line :: splitLines [] (c' :: t)
    else splitLines (line ++ [c]) (c' :: t)

/-- `_recent_errors`, from the exit code of `journalctl` and what it printed. -/
def recentErrors (journal : ℤ × String) (sensitive : List Json) : List String :=
  if journal.1 ≠ 0 then []
  else
    let lines := (splitLines [] journal.2.toList).filter fun line =>
      (interestingPattern T).search T.isWord none line.toList
    let lines := lines.map fun line => sanitizeText T line sensitive
    lines.drop (lines.length - maxErrorLines)

/-! ### The answers of the local API -/

/-- `_read_api`: the result, or the error that is reported in its place. -/
def readApi (outcome : Except Exn Json) : Except Exn (Except String (List (String × Json))) :=
  match outcome with
  | .error e =>
    if e.cls ∈ [.osError, .valueError] then .ok (.error (sanitizeText T e.message []))
    else .error e
  | .ok response =>
    if ¬(response.isObj ∧ (response.field "ok").truthy) then .ok (.error "API request was rejected")
    else .ok (.ok ((response.field "result").obj?.getD []))

/-- `_safe_health`. -/
def safeHealth (payload : List (String × Json)) : Json :=
  .obj (["agent_version", "connected_count", "generated_at", "instance_count",
    "telemetry_ready_count", "uptime_seconds"].map fun key =>
      (key, (Entries.get? key payload).getD .null))

/-- The part of the report about the local API. -/
def localApi (health : Except String (List (String × Json))) : Json :=
  match health with
  | .ok payload => .obj [("available", .bool true), ("error", .null), ("health", safeHealth payload)]
  | .error e => .obj [("available", .bool false), ("error", .str e), ("health", .null)]

/-- The items of the catalog. -/
def catalogItems (catalog : Except String (List (String × Json))) : List Json :=
  match catalog with
  | .ok result =>
    (((Entries.get? "instances" result).bind Json.arr?).getD []).filter Json.isObj
  | .error _ => []

/-- The snapshots, under the identifiers of their printers. -/
def snapshotEntries (snapshot : Except String (List (String × Json))) : List (String × Json) :=
  match snapshot with
  | .ok result => ((Entries.get? "instances" result).bind Json.obj?).getD []
  | .error _ => []

/-! ### The printers -/

/-- `len(value) if isinstance(value, dict) else 0`. -/
def countFields (value : Json) : Json := .int (value.obj?.getD []).length

/-- `sanitize_text(value) if value else None`. -/
def sanitizeValue (value : Json) : Json :=
  if value.truthy then .str (sanitizeText T (T.pyStr value) []) else .null

/-- What the report says of a printer: `_device_summary` of its snapshot, and the rest. -/
def printerEntry (name : String) (reachable moonrakerVersion klippyState telemetry : Json) : Json :=
  let status := telemetry.field "status"
  .obj [("alias", .str name), ("captured_at", telemetry.field "captured_at"),
    ("connected", .bool (telemetry.field "connected").truthy),
    ("error", sanitizeValue T (telemetry.field "error")),
    ("fan_device_count", countFields (status.field "fans")),
    ("klippy_state", klippyState), ("moonraker_version", moonrakerVersion),
    ("print_state", (status.field "print").field "state"), ("reachable", reachable),
    ("temperature_device_count", countFields (status.field "temperatures"))]

/-- `"printer-{}".format(index)`. -/
def printerAlias (index : ℕ) : String := "printer-" ++ String.ofList (Json.intText index)

/-- The keys of a catalog item whose values are sensitive. -/
def sensitiveKeys : List String := ["instance_id", "hostname", "socket_path", "data_path"]

/-- `sensitive_values`. -/
def sensitiveValues (items : List Json) : List Json :=
  items.flatMap fun item => (sensitiveKeys.map item.field).filter Json.truthy

/-- The snapshot of a catalog item. -/
def itemTelemetry (snapshots : List (String × Json)) (item : Json) : Json :=
  match (item.field "instance_id").str? with
  | some identifier =>
    let telemetry := (Entries.get? identifier snapshots).getD (.obj [])
    if telemetry.isObj then telemetry else .obj []
  | none => .obj []

/-- The printers in the catalog. -/
def cataloguedPrinters (items : List Json) (snapshots : List (String × Json)) : List Json :=
  (items.zipIdx 1).map fun (item, index) =>
    printerEntry T (printerAlias index) (.bool (item.field "reachable").truthy)
      (sanitizeValue T (item.field "moonraker_version"))
      (sanitizeValue T (item.field "klippy_state")) (itemTelemetry snapshots item)

/-- The identifiers that have an alias. -/
def aliases (items : List Json) : List String :=
  items.filterMap fun item => (item.field "instance_id").str?

/-- The snapshots of printers that are not in the catalog. -/
def uncatalogued (items : List Json) (snapshots : List (String × Json)) : List Json :=
  (snapshots.filter fun e => e.1 ∉ aliases items ∧ e.2.isObj).map Prod.snd

/-- The printers: those in the catalog, and then the others. -/
def reportedPrinters (items : List Json) (snapshots : List (String × Json)) : List Json :=
  let printers := cataloguedPrinters T items snapshots
  printers ++ ((uncatalogued items snapshots).zipIdx (printers.length + 1)).map
    fun (telemetry, index) => printerEntry T (printerAlias index) .null .null .null telemetry

/-! ### The report -/

/-- The report, without what it says of the host and of the service. -/
structure Report where
  localApi : Json
  printers : List Json
  recentSanitizedErrors : List String

/-- `collect_diagnostics`, from the answers of the local API and what `journalctl` did. -/
def collectDiagnostics (health catalog snapshot : Except Exn Json) (journal : ℤ × String) :
    Except Exn Report := do
  let health ← readApi T health
  let catalog ← readApi T catalog
  let snapshot ← readApi T snapshot
  let items := catalogItems catalog
  pure {
    localApi := localApi health
    printers := reportedPrinters T items (snapshotEntries snapshot)
    recentSanitizedErrors := recentErrors T journal (sensitiveValues items) }

/-- The error texts of a report. -/
def Report.errorTexts (report : Report) : List String :=
  report.printers.filterMap (fun printer => (printer.field "error").str?) ++
    report.recentSanitizedErrors

/-! ### What can be read in a sanitized text -/

/-- The characters of identities. -/
def isPlain (c : Char) : Bool := c.isLower || c.isDigit || c == '-'

/-- A text of such characters. -/
def IsPlainText (s : String) : Prop := s ≠ "" ∧ ∀ c ∈ s.toList, isPlain c = true

/-- One text can be read in another. -/
def Reads (text value : String) : Prop := value.toList <:+: text.toList

/-- What is written over a text. -/
def markers : List String := ["<REDACTED>", "<HOME>", "<URL>", "<IP>", "=<REDACTED>", "<PATH>"]

/-- The markers have no character of an identity. -/
theorem isPlain_marker {marker : String} (h : marker ∈ markers) :
    marker.toList ≠ [] ∧ ∀ c ∈ marker.toList, isPlain c = false := by
  revert marker
  decide

variable {T} {v : String}

theorem toList_ne_nil (hv : IsPlainText v) : v.toList ≠ [] := fun hc =>
  hv.1 (String.toList_injective hc)

theorem infix_of_infix_replaceText (hv : IsPlainText v) {old marker : String} {text : List Char}
    (hmarker : marker ∈ markers) (h : v.toList <:+: replaceText old marker text) :
    v.toList <:+: text := by
  obtain ⟨hne, hplain⟩ := isPlain_marker hmarker
  exact infix_of_infix_sub hv.2 (toList_ne_nil hv) hne hplain h

theorem infix_of_infix_subPattern (hv : IsPlainText v) {text : List Char}
    {substitution : Pattern × Bool × String} (hmem : substitution ∈ substitutions T)
    (h : v.toList <:+: subPattern T text substitution) : v.toList <:+: text := by
  have hmarker : substitution.2.2 ∈ markers := by
    simp only [substitutions, List.mem_cons, List.not_mem_nil, or_false] at hmem
    rcases hmem with rfl | rfl | rfl | rfl | rfl <;> simp [markers]
  obtain ⟨hne, hplain⟩ := isPlain_marker hmarker
  exact infix_of_infix_sub hv.2 (toList_ne_nil hv) hne hplain h

/-- **The general markers show nothing new.** -/
theorem infix_of_infix_genericText (hv : IsPlainText v) {text : List Char}
    (h : v.toList <:+: genericText T text) : v.toList <:+: text := by
  have hall : ∀ (substitutions' : List (Pattern × Bool × String)) (text : List Char),
      (∀ s ∈ substitutions', s ∈ substitutions T) →
      v.toList <:+: substitutions'.foldl (subPattern T) text → v.toList <:+: text := by
    intro substitutions' text hmem hread
    induction substitutions' generalizing text with
    | nil => exact hread
    | cons s substitutions' ih =>
      exact infix_of_infix_subPattern hv (hmem s List.mem_cons_self)
        (ih _ (fun s' hs' => hmem s' (List.mem_cons_of_mem _ hs')) hread)
  rw [genericText] at h
  have hread := hall _ _ (fun _ hs => hs) (h.trans (List.take_prefix _ _).isInfix)
  split at hread
  · exact infix_of_infix_replaceText hv (by decide) hread
  · exact hread

/-- **What is among the sensitive values cannot be read.** -/
theorem not_reads_sanitizeText (hv : IsPlainText v) {sensitive : List Json}
    (hmem : .str v ∈ sensitive) (text : String) : ¬Reads (sanitizeText T text sensitive) v := by
  have hredacted : "<REDACTED>" ∈ markers := by decide
  -- the value is replaced in its turn, and later replacements do not bring it back
  have hreplaced : ∀ (values : List String) (text : List Char), v ∈ values →
      ¬v.toList <:+: values.foldl (fun text value => replaceText value "<REDACTED>" text) text := by
    intro values text hin hread
    induction values using List.reverseRecOn with
    | nil => cases hin
    | append_singleton values value ih =>
      rw [List.foldl_concat] at hread
      rcases List.mem_append.mp hin with hearlier | hlast
      · exact ih hearlier (infix_of_infix_replaceText hv (by decide) hread)
      · obtain rfl := List.mem_singleton.mp hlast
        obtain ⟨hne, hplain⟩ := isPlain_marker hredacted
        exact not_infix_sub_literal hv.2 (toList_ne_nil hv) hne hplain _ _ _ hread
  have hvalues : v ∈ sortedSensitive T sensitive := by
    rw [sortedSensitive, (List.perm_insertionSort _ _).mem_iff]
    refine List.mem_map.mpr ⟨.str v, List.mem_filter.mpr ⟨hmem, ?_⟩, T.pyStr_str v⟩
    exact bne_iff_ne.mpr hv.1
  intro hread
  rw [Reads, sanitizeText, String.toList_ofList] at hread
  exact hreplaced _ _ hvalues (infix_of_infix_genericText hv hread)

/-! ### What can be read in a report -/

variable (T) in
/-- The items of the catalog that an answer of the local API has. -/
def catalogOf (catalog : Except Exn Json) : List Json :=
  match readApi T catalog with
  | .ok answer => catalogItems answer
  | .error _ => []

variable (T) in
/-- The snapshots that an answer of the local API has. -/
def snapshotsOf (snapshot : Except Exn Json) : List (String × Json) :=
  match readApi T snapshot with
  | .ok answer => snapshotEntries answer
  | .error _ => []

/-- **An identity in the catalog**: a text that an item has as its identifier, host name, socket
or directory. -/
def IsIdentity (items : List Json) (v : String) : Prop :=
  IsPlainText v ∧ ∃ item ∈ items, ∃ key ∈ sensitiveKeys, item.field key = .str v

variable {items : List Json} {snapshots : List (String × Json)}
  {health catalog snapshot : Except Exn Json} {journal : ℤ × String} {report : Report}

theorem mem_sensitiveValues (h : IsIdentity items v) : .str v ∈ sensitiveValues items := by
  obtain ⟨hplain, item, hitem, key, hkey, hv⟩ := h
  refine List.mem_flatMap.mpr ⟨item, hitem, List.mem_filter.mpr
    ⟨List.mem_map.mpr ⟨key, hkey, hv⟩, ?_⟩⟩
  exact bne_iff_ne.mpr hplain.1

/-- What the parts of a report are made of. -/
theorem collectDiagnostics_eq_ok (h : collectDiagnostics T health catalog snapshot journal =
    .ok report) :
    report.printers = reportedPrinters T (catalogOf T catalog) (snapshotsOf T snapshot) ∧
      report.recentSanitizedErrors =
        recentErrors T journal (sensitiveValues (catalogOf T catalog)) := by
  simp only [collectDiagnostics, Except.bind_eq_ok] at h
  obtain ⟨_, -, catalog', hcatalog, snapshot', hsnapshot, hreport⟩ := h
  obtain rfl := Except.ok.inj hreport
  rw [catalogOf, hcatalog, snapshotsOf, hsnapshot]
  exact ⟨rfl, rfl⟩

/-- The snapshots are those of an answer that was accepted, or there are none. -/
theorem snapshotsOf_cases (snapshot : Except Exn Json) : snapshotsOf T snapshot = [] ∨
    ∃ d, snapshot = .ok d ∧
      snapshotsOf T snapshot = snapshotEntries (.ok ((d.field "result").obj?.getD [])) := by
  rw [snapshotsOf]
  cases snapshot with
  | error e =>
    rw [readApi]
    split_ifs
    · exact .inl rfl
    · exact .inl rfl
  | ok d =>
    rw [readApi]
    split_ifs with haccepted
    · exact .inr ⟨d, rfl, rfl⟩
    · exact .inl rfl

/-- The snapshots are in the order of their identifiers. -/
theorem sorted_snapshotsOf (h : ∀ d, snapshot = .ok d → d.ordered = true) :
    Entries.Sorted (snapshotsOf T snapshot) := by
  rcases snapshotsOf_cases (T := T) snapshot with hnone | ⟨d, hd, hsome⟩
  · rw [hnone]
    exact Entries.sorted_nil
  rw [hsome, snapshotEntries]
  cases hresult : d.field "result" with
  | obj fields =>
    have hfields : (Json.obj fields).ordered = true := hresult ▸ Json.ordered_field (h d hd) "result"
    change Entries.Sorted (((Entries.get? "instances" fields).bind Json.obj?).getD [])
    cases hinstances : Entries.get? "instances" fields with
    | none => exact Entries.sorted_nil
    | some instances =>
      have hordered := Json.ordered_get? (d := .obj fields) hfields hinstances
      cases instances with
      | obj entries => exact (Json.ordered_obj.mp hordered).1
      | _ => exact Entries.sorted_nil
  | _ => exact Entries.sorted_nil

/-- The error text of a printer is that of its snapshot. -/
theorem str?_sanitizeValue {value : Json} {text : String} :
    (sanitizeValue T value).str? = some text ↔
      value.truthy = true ∧ sanitizeText T (T.pyStr value) [] = text := by
  rw [sanitizeValue]
  split
  · next htruthy => exact ⟨fun h => ⟨htruthy, Option.some.inj h⟩, fun h => congrArg some h.2⟩
  · next htruthy => exact iff_of_false (fun h => by cases h) fun h => htruthy h.1

/-- A list is gone through with its indices as it is without. -/
theorem filterMap_zipIdx {α β : Type} (g : α → Option β) (l : List α) (k : ℕ) :
    ((l.zipIdx k).filterMap fun e => g e.1) = l.filterMap g := by
  have hfst : (l.zipIdx k).map Prod.fst = l := List.zipIdx_map_fst k l
  rw [← congrArg (List.filterMap g) hfst, List.filterMap_map]
  rfl

/-- What a snapshot's error reads in a report. -/
def telemetryError (T : TextPlatform) (telemetry : Json) : Option String :=
  (sanitizeValue T (telemetry.field "error")).str?

/-- The error texts of the printers are those of the snapshots. -/
theorem filterMap_error_reportedPrinters (items : List Json) (snapshots : List (String × Json)) :
    (reportedPrinters T items snapshots).filterMap (fun printer => (printer.field "error").str?) =
      items.filterMap (fun item => telemetryError T (itemTelemetry snapshots item)) ++
        (uncatalogued items snapshots).filterMap (telemetryError T) := by
  rw [reportedPrinters, List.filterMap_append, cataloguedPrinters, List.filterMap_map,
    List.filterMap_map]
  exact congrArg₂ _
    (filterMap_zipIdx (fun item => telemetryError T (itemTelemetry snapshots item)) items 1)
    (filterMap_zipIdx (telemetryError T) _ _)

/-- The error of a printer in the catalog is that of its snapshot. -/
theorem mem_of_itemTelemetry {item : Json} {text : String}
    (htext : telemetryError T (itemTelemetry snapshots item) = some text) :
    ∃ e ∈ snapshots, e.2.isObj = true ∧ telemetryError T e.2 = some text := by
  -- without a snapshot there is no error
  rw [itemTelemetry] at htext
  split at htext
  · next identifier _ =>
    dsimp only at htext
    cases hget : Entries.get? identifier snapshots with
    | none =>
      rw [hget] at htext
      cases htext
    | some telemetry =>
      rw [hget, Option.getD_some] at htext
      split at htext
      · next hobj => exact ⟨_, Entries.mem_of_get? hget, hobj, htext⟩
      · cases htext
  · cases htext

/-- **Every error of a snapshot is reported**, and no other. -/
theorem mem_printerErrors (hsorted : Entries.Sorted snapshots) {text : String} :
    text ∈ (reportedPrinters T items snapshots).filterMap
        (fun printer => (printer.field "error").str?) ↔
      ∃ e ∈ snapshots, e.2.isObj = true ∧ telemetryError T e.2 = some text := by
  rw [filterMap_error_reportedPrinters, List.mem_append, List.mem_filterMap, List.mem_filterMap]
  constructor
  · rintro (⟨item, -, htext⟩ | ⟨telemetry, hmem, htext⟩)
    · exact mem_of_itemTelemetry htext
    · obtain ⟨e, he, rfl⟩ := List.mem_map.mp hmem
      obtain ⟨hin, hfilter⟩ := List.mem_filter.mp he
      exact ⟨e, hin, (of_decide_eq_true hfilter).2, htext⟩
  · rintro ⟨⟨identifier, telemetry⟩, hin, hobj, htext⟩
    by_cases halias : identifier ∈ aliases items
    · -- a printer in the catalog has this snapshot
      left
      obtain ⟨item, hitem, hidentifier⟩ := List.mem_filterMap.mp halias
      refine ⟨item, hitem, ?_⟩
      rw [itemTelemetry, hidentifier]
      dsimp only
      rw [Entries.get?_of_mem hsorted hin, Option.getD_some, if_pos hobj]
      exact htext
    · right
      exact ⟨telemetry, List.mem_map.mpr ⟨_, List.mem_filter.mpr
        ⟨hin, decide_eq_true ⟨halias, hobj⟩⟩, rfl⟩, htext⟩

/-- What is reported of the journal names no sensitive value. -/
theorem not_reads_recentErrors (hv : IsPlainText v) {sensitive : List Json}
    (hmem : .str v ∈ sensitive) {text : String} (htext : text ∈ recentErrors T journal sensitive) :
    ¬Reads text v := by
  rw [recentErrors] at htext
  split at htext
  · cases htext
  · obtain ⟨line, -, rfl⟩ := List.mem_map.mp (List.mem_of_mem_drop htext)
    exact not_reads_sanitizeText hv hmem line

/-! ### Errors that stay as they are -/

/-- The characters some of which a text has where a marker is written into it. -/
def isTelling (c : Char) : Bool := c == '/' || c == '.' || c == ':' || c == '='

theorem needs_assigned (r : Pattern) :
    (Pattern.seq r (assigned T)).Needs T.isWord isTelling := by
  refine .seq_right (.seq_right (.seq_left (Pattern.needs_one fun c hc => ?_)))
  rcases Bool.or_eq_true_iff.mp hc with hcolon | hequals
  · obtain rfl := beq_iff_eq.mp hcolon
    rfl
  · obtain rfl := beq_iff_eq.mp hequals
    rfl

/-- Every substitution needs one of these characters. -/
theorem needs_of_mem_substitutions {substitution : Pattern × Bool × String}
    (h : substitution ∈ substitutions T) : substitution.1.Needs T.isWord isTelling := by
  have htelling : ∀ {c d : Char}, isTelling c = true → (c == d) = true → isTelling d = true := by
    intro c d hc heq
    rwa [← beq_iff_eq.mp heq]
  simp only [substitutions, List.mem_cons, List.not_mem_nil, or_false] at h
  rcases h with rfl | rfl | rfl | rfl | rfl
  · -- a URL has its colon
    exact .seq_right (.seq_right (.seq_left (.seq_left (Pattern.needs_one fun _ =>
      htelling (by decide)))))
  · -- an address has its dots
    refine .seq_right (.seq_left (.many (.seq_right (Pattern.needs_one fun c hc => ?_))
      (by decide) _))
    exact htelling (c := '.') (by decide) (BEq.symm hc)
  · exact .seq_right (needs_assigned _)
  · exact .seq_right (needs_assigned _)
  · -- a path has its slashes
    refine .many (.seq_left (Pattern.needs_one fun c hc => ?_)) (by decide) _
    exact htelling (c := '/') (by decide) (BEq.symm hc)

variable (T) in
/-- **A text that is reported as it stands**: it is short, has none of these characters, and
does not name the home directory. -/
def Unmarked (text : String) : Prop :=
  text.toList.length ≤ maxErrorLength ∧ (∀ c ∈ text.toList, isTelling c = false) ∧
    (T.home ≠ "" → ¬Reads text T.home)

theorem genericText_eq_self {text : String} (h : Unmarked T text) :
    genericText T text.toList = text.toList := by
  obtain ⟨hshort, hnone, hhome⟩ := h
  have hfold : ∀ substitutions' ⊆ substitutions T,
      substitutions'.foldl (subPattern T) text.toList = text.toList := by
    intro substitutions' hsubset
    induction substitutions' with
    | nil => rfl
    | cons s substitutions' ih =>
      have hs : subPattern T text.toList s = text.toList :=
        (needs_of_mem_substitutions (hsubset List.mem_cons_self)).sub_eq_self hnone _ _ _
      rw [List.foldl_cons, hs]
      exact ih fun s' hs' => hsubset (List.mem_cons_of_mem _ hs')
  have hkept : (if T.home ≠ "" ∧ T.home ≠ "/" then replaceText T.home "<HOME>" text.toList
      else text.toList) = text.toList := by
    split
    · next hreplaced => exact sub_literal_eq_self (hhome hreplaced.1) none
    · rfl
  rw [genericText, hkept]
  rw [hfold _ (List.Subset.refl _), List.take_of_length_le hshort]

/-! ### When a report names no printer -/

variable (T) in
/-- **The error of a snapshot names a text**, as it stands in the answer of the local API. -/
def Names (telemetry : Json) (v : String) : Prop :=
  (telemetry.field "error").truthy = true ∧ Reads (T.pyStr (telemetry.field "error")) v

/-- **The journal names no printer, and the report names none where no error of a snapshot
does.** An error of plain words is reported as it stands, with the printers it names. -/
theorem identities_redacted (hordered : ∀ d, snapshot = .ok d → d.ordered = true)
    (h : collectDiagnostics T health catalog snapshot journal = .ok report) :
    (∀ text ∈ report.recentSanitizedErrors, ∀ v, IsIdentity (catalogOf T catalog) v →
      ¬Reads text v) ∧
    ((∀ e ∈ snapshotsOf T snapshot, e.2.isObj = true → ∀ v, IsIdentity (catalogOf T catalog) v →
        ¬Names T e.2 v) →
      ∀ text ∈ report.errorTexts, ∀ v, IsIdentity (catalogOf T catalog) v → ¬Reads text v) ∧
    ((∀ text ∈ report.errorTexts, ∀ v, IsIdentity (catalogOf T catalog) v → ¬Reads text v) →
      ∀ e ∈ snapshotsOf T snapshot, e.2.isObj = true →
        Unmarked T (T.pyStr (e.2.field "error")) →
        ∀ v, IsIdentity (catalogOf T catalog) v → ¬Names T e.2 v) := by
  obtain ⟨hprinters, hrecent⟩ := collectDiagnostics_eq_ok h
  have herrors : ∀ text, text ∈ report.printers.filterMap
      (fun printer => (printer.field "error").str?) ↔
        ∃ e ∈ snapshotsOf T snapshot, e.2.isObj = true ∧ telemetryError T e.2 = some text := by
    intro text
    rw [hprinters]
    exact mem_printerErrors (sorted_snapshotsOf hordered)
  have hjournal : ∀ text ∈ report.recentSanitizedErrors, ∀ v,
      IsIdentity (catalogOf T catalog) v → ¬Reads text v := by
    intro text htext v hv
    rw [hrecent] at htext
    exact not_reads_recentErrors hv.1 (mem_sensitiveValues hv) htext
  refine ⟨hjournal, fun hunnamed text htext v hv hread => ?_,
    fun hall e he hobj hunmarked v hv ⟨htruthy, hnamed⟩ => ?_⟩
  · -- what is read in an error could be read in it before the markers were written
    rcases List.mem_append.mp htext with hprinter | hline
    · obtain ⟨e, he, hobj, herror⟩ := (herrors text).mp hprinter
      obtain ⟨htruthy, rfl⟩ := str?_sanitizeValue.mp herror
      refine hunnamed e he hobj v hv ⟨htruthy, ?_⟩
      rw [Reads, sanitizeText, String.toList_ofList] at hread
      exact infix_of_infix_genericText hv.1 hread
    · exact hjournal text hline v hv hread
  · have htext : telemetryError T e.2 =
        some (sanitizeText T (T.pyStr (e.2.field "error")) []) :=
      str?_sanitizeValue.mpr ⟨htruthy, rfl⟩
    refine hall _ (List.mem_append_left _ ((herrors _).mpr ⟨e, he, hobj, htext⟩)) v hv ?_
    rw [Reads, sanitizeText, String.toList_ofList]
    exact (genericText_eq_self hunmarked).symm ▸ hnamed

end Sanitize

/-! ### An error that names a printer -/

section Sample

instance (text v : String) : Decidable (Reads text v) := inferInstanceAs (Decidable (_ <:+: _))

/-- A host that knows the characters of ASCII. -/
def asciiTexts : TextPlatform where
  pyStr v := v.str?.getD ""
  pyStr_str _ := rfl
  isSpace c := c ∈ [' ', '\t', '\n', '\x0b', '\x0c', '\r']
  isDigit := Char.isDigit
  isWord c := c.isAlphanum || c == '_'
  sameLetter a b := a.toLower == b.toLower
  home := "/home/pi"

/-- An answer of the local API. -/
def apiAnswer (instances : Json) : Except Exn Json :=
  .ok (.obj [("ok", .bool true), ("result", .obj [("instances", instances)])])

/-- The catalog has one printer. -/
def oneCatalogued : Except Exn Json := apiAnswer (.arr [.obj [("hostname", .str "workshop-pi"),
  ("instance_id", .str "kitchen"), ("reachable", .bool true)]])

/-- The printer is not connected. -/
def notConnected (error : String) : Except Exn Json := apiAnswer (.obj [("kitchen",
  .obj [("connected", .bool false), ("error", .str error)])])

theorem identity_reported : ¬∀ report,
    collectDiagnostics asciiTexts (apiAnswer .null) oneCatalogued
      (notConnected "cannot resolve workshop-pi") (0, "") = .ok report →
    ∀ text ∈ report.errorTexts, ∀ v,
      IsIdentity (catalogOf asciiTexts oneCatalogued) v → ¬Reads text v := by
  intro h
  have hidentity : IsIdentity (catalogOf asciiTexts oneCatalogued) "workshop-pi" :=
    ⟨⟨by decide, by decide⟩, _, List.mem_cons_self, "hostname", by decide, rfl⟩
  have htext : sanitizeText asciiTexts "cannot resolve workshop-pi" [] ∈
      (reportedPrinters asciiTexts (catalogOf asciiTexts oneCatalogued)
        (snapshotsOf asciiTexts (notConnected "cannot resolve workshop-pi"))).filterMap
          fun printer => (printer.field "error").str? :=
    (mem_printerErrors (by decide)).mpr
      ⟨_, List.mem_cons_self, rfl, str?_sanitizeValue.mpr ⟨by decide, rfl⟩⟩
  have hread : Reads (sanitizeText asciiTexts "cannot resolve workshop-pi" []) "workshop-pi" := by
    decide
  exact h _ rfl _ (List.mem_append_left _ htext) "workshop-pi" hidentity hread

/-- The identities in the catalog of one printer. -/
theorem isIdentity_oneCatalogued {v : String}
    (h : IsIdentity (catalogOf asciiTexts oneCatalogued) v) : v ∈ ["kitchen", "workshop-pi"] := by
  obtain ⟨-, item, hitem, key, hkey, hv⟩ := h
  obtain rfl := List.mem_singleton.mp hitem
  simp only [sensitiveKeys, List.mem_cons, List.not_mem_nil, or_false] at hkey
  rcases hkey with rfl | rfl | rfl | rfl <;> cases hv <;> decide

/-- A line of the journal names the printer, the error of its snapshot does not. -/
theorem identities_redacted_sample : ∃ report,
    collectDiagnostics asciiTexts (apiAnswer .null) oneCatalogued
      (notConnected "connection refused") (0, "error: kitchen is away\n") = .ok report ∧
    report.recentSanitizedErrors = ["error: <REDACTED> is away"] ∧
    (∀ e ∈ snapshotsOf asciiTexts (notConnected "connection refused"),
      Unmarked asciiTexts (asciiTexts.pyStr (e.2.field "error"))) ∧
    ∀ text ∈ report.errorTexts, ∀ v,
      IsIdentity (catalogOf asciiTexts oneCatalogued) v → ¬Reads text v := by
  obtain ⟨report, hreport⟩ : ∃ report, collectDiagnostics asciiTexts (apiAnswer .null)
      oneCatalogued (notConnected "connection refused") (0, "error: kitchen is away\n") =
        .ok report := ⟨_, rfl⟩
  obtain ⟨-, hredacted, -⟩ := identities_redacted (fun d hd => by
    obtain rfl := Except.ok.inj hd
    decide) hreport
  refine ⟨report, hreport, ?_, ?_, hredacted fun e he _ v hv hnames => ?_⟩
  · obtain ⟨-, hrecent⟩ := collectDiagnostics_eq_ok hreport
    rw [hrecent]
    decide
  · intro e he
    obtain rfl := List.mem_singleton.mp he
    exact ⟨by decide, by decide, fun _ => by decide⟩
  · obtain rfl := List.mem_singleton.mp he
    have hnone : ∀ v ∈ ["kitchen", "workshop-pi"], ¬Reads "connection refused" v := by decide
    exact hnone v (isIdentity_oneCatalogued hv) hnames.2

end Sample

end PrinterHmi
