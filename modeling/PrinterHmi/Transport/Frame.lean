import PrinterHmi.Lib.LineReader
import PrinterHmi.Transport.Session

/-!
# Frames

A message of a session is one line: the canonical text of an object and a newline,
at most `maxFrameBytes` long. What `write_frame` writes, `read_frame` reads back as
the object it was given (`readFrame_writeFrame`), whatever follows on the stream
(`readLine_writeFrame`): the canonical text of a document has no newline in it.
-/

namespace PrinterHmi

/-- `MAX_FRAME_BYTES`. -/
def maxFrameBytes : ℕ := 256 * 1024

/-- The newline. -/
def newline : UInt8 := 10

/-- What a frame that is too long raises, on either side. -/
def frameExceedsLimit : Exn := transportError "relay frame exceeds limit"

/-- `write_frame`: the bytes it writes. -/
def writeFrame (document : Json) : Except Exn Bytes := do
  let payload := canonical document ++ [newline]
  require (payload.length ≤ maxFrameBytes) frameExceedsLimit
  pure payload

/-- `reader.readline()`, on all that will arrive: the bytes up to the first newline,
and the rest. A reader made with `limit=MAX_FRAME_BYTES + 1` refuses a longer line
itself, with the same outcome as `read_frame`. -/
def readLine (stream : Bytes) : Bytes × Bytes :=
  match stream.dropWhile (· ≠ newline) with
  | [] => (stream, [])
  | _ :: rest => (stream.takeWhile (· ≠ newline) ++ [newline], rest)

/-- `read_frame`, once its line has arrived. -/
def readFrame (raw : Bytes) : Except Exn Json := do
  require (raw ≠ []) (transportError "relay closed the connection")
  require (raw.length ≤ maxFrameBytes ∧ raw.getLast? = some newline) frameExceedsLimit
  match (utf8? raw).bind fun text => Json.loads text.toList with
  | none => .error (transportError "relay frame is not valid JSON")
  | some document => do
    require (document.isObj) (transportError "relay frame must be an object")
    pure document

/-- What was written is the canonical text and a newline, within the limit. -/
theorem writeFrame_eq_ok {d : Json} {payload : Bytes} : writeFrame d = .ok payload ↔
    (canonical d).length + 1 ≤ maxFrameBytes ∧ payload = canonical d ++ [newline] := by
  simp only [writeFrame, Except.bind_eq_ok, require_eq_ok, exists_const, List.length_append,
    List.length_singleton]
  exact and_congr_right fun _ => ⟨fun h => (Except.ok.inj h).symm, fun h => h ▸ rfl⟩

/-- The canonical bytes are as many as the characters of the text. -/
theorem length_canonical (d : Json) : (canonical d).length = d.encode.length := by
  have hascii : ∀ c ∈ d.encode, c.toNat < 128 := fun c hc => by
    obtain ⟨-, hhi⟩ := Json.encode_printable d c hc
    omega
  rw [canonical, utf8_ascii hascii, List.length_map]

/-- A document whose text is bounded by the limit is written. -/
theorem writeFrame_of_lengthBound {d : Json} (h : d.lengthBound < maxFrameBytes) :
    writeFrame d = .ok (canonical d ++ [newline]) := by
  have hlen := d.length_encode_le
  rw [← length_canonical] at hlen
  exact writeFrame_eq_ok.mpr ⟨by omega, rfl⟩

/-- The canonical bytes have no newline. -/
theorem newline_notMem_canonical (d : Json) : newline ∉ canonical d := by
  have hascii : ∀ c ∈ d.encode, c.toNat < 128 := fun c hc => by
    obtain ⟨-, hhi⟩ := Json.encode_printable d c hc
    omega
  rw [canonical, utf8_ascii hascii, List.mem_map]
  rintro ⟨c, hc, heq⟩
  obtain ⟨hlo, hhi⟩ := Json.encode_printable d c hc
  have hnat : c.val.toNat % 256 = 10 := congrArg UInt8.toNat heq
  have htoNat : c.val.toNat = c.toNat := rfl
  omega

/-- The line of a document whose text is below a limit is within it, and complete. -/
theorem line_within {limit : ℕ} {d : Json} (hlen : d.encode.length < limit) :
    (canonical d ++ [newline]).length ≤ limit ∧
      (canonical d ++ [newline]).getLast? = some newline := by
  refine ⟨?_, by simp⟩
  rw [List.length_append, length_canonical, List.length_singleton]
  omega

/-- The line a stream starts with, when it is known to start with one. -/
theorem readLine_append {raw body : Bytes} (hraw : raw = body ++ [newline])
    (hbody : newline ∉ body) (rest : Bytes) : readLine (raw ++ rest) = (raw, rest) := by
  subst hraw
  rw [readLine, List.append_assoc, List.singleton_append, LineReader.dropWhile_line hbody,
    LineReader.takeWhile_line hbody]

/-- **A line is read as it was written**, whatever follows. -/
theorem readLine_writeFrame {d : Json} {payload : Bytes} (h : writeFrame d = .ok payload)
    (rest : Bytes) : readLine (payload ++ rest) = (payload, rest) :=
  readLine_append (writeFrame_eq_ok.mp h).2 (newline_notMem_canonical d) rest

/-- The text of a frame. -/
theorem utf8_frame (d : Json) :
    canonical d ++ [newline] = utf8 (String.ofList (d.encode ++ ['\n'])) := by
  rw [canonical, utf8_ofList, utf8_ofList, List.flatMap_append]
  rfl

/-- **A frame reads back as the object it was written from.** -/
theorem readFrame_writeFrame {d : Json} {payload : Bytes} (hd : d.ordered = true)
    (hobj : d.isObj = true) (h : writeFrame d = .ok payload) : readFrame payload = .ok d := by
  obtain ⟨hlen, rfl⟩ := writeFrame_eq_ok.mp h
  have hne : canonical d ++ [newline] ≠ [] := by simp
  have hlimit : (canonical d ++ [newline]).length ≤ maxFrameBytes ∧
      (canonical d ++ [newline]).getLast? = some newline := ⟨by simpa using hlen, by simp⟩
  have hloads : (utf8? (canonical d ++ [newline])).bind (fun text => Json.loads text.toList) =
      some d := by
    rw [utf8_frame, utf8?_utf8, Option.bind_some, String.toList_ofList,
      Json.loads_encode_append hd (by decide) (Json.stops_cons (by decide))]
  rw [readFrame, require_pos hne, require_pos hlimit, hloads]
  dsimp only
  rw [require_pos hobj]
  rfl

/-- What a frame denotes is an object in normal form. -/
theorem readFrame_ordered {raw : Bytes} {d : Json} (h : readFrame raw = .ok d) :
    d.ordered = true ∧ d.isObj = true := by
  simp only [readFrame, Except.bind_eq_ok, require_eq_ok, exists_const] at h
  obtain ⟨-, -, h⟩ := h
  cases hread : (utf8? raw).bind fun text => Json.loads text.toList with
  | none =>
    rw [hread] at h
    cases h
  | some document =>
    rw [hread] at h
    simp only [Except.bind_eq_ok, require_eq_ok, exists_const] at h
    obtain ⟨hobj, heq⟩ := h
    obtain rfl := Except.ok.inj heq
    obtain ⟨text, -, hloads⟩ := Option.bind_eq_some_iff.mp hread
    exact ⟨Json.loads_ordered hloads, hobj⟩

end PrinterHmi
