import Mathlib.Data.List.Forall2
import PrinterHmi.Lib.LineReader
import PrinterHmi.Transport.Frame

/-!
# Frames on a stream

A connection carries bytes, not frames, and they arrive in pieces that end anywhere. Each side
reads with a limit of one byte more than a frame may have. So a frame that was written is one
that is read (`frames_lossless`): the limits of the writer, of the reader and of the check after
reading leave no gap, and no frame has a newline but its last byte.
-/

namespace PrinterHmi

open LineReader

/-- `limit=MAX_FRAME_BYTES + 1`. -/
def readerLimit : ℕ := maxFrameBytes + 1

/-- What a frame that does not arrive in time raises. -/
def frameTimedOut : Exn := transportError "relay frame timed out"

/-- `read_frame`. -/
def readFrameFrom (r : Reader UInt8) : Except Exn Json × Reader UInt8 :=
  match LineReader.readLine newline readerLimit r with
  | (.line raw, r) => (readFrame raw, r)
  | (.overrun, r) => (.error frameExceedsLimit, r)
  | (.timedOut, r) => (.error frameTimedOut, r)

/-- So many calls of `read_frame`, until one raises. -/
def readFrames : ℕ → Reader UInt8 → Except Exn (List Json) × Reader UInt8
  | 0, r => (.ok [], r)
  | n + 1, r =>
    match readFrameFrom r with
    | (.error e, r) => (.error e, r)
    | (.ok d, r) =>
      match readFrames n r with
      | (.error e, r) => (.error e, r)
      | (.ok ds, r) => (.ok (d :: ds), r)

/-- What `write_frame` writes for one document after the other. -/
def writeFrames (documents : List Json) : Except Exn Bytes := do
  let payloads ← documents.mapM writeFrame
  pure payloads.flatten

/-- What is written for some documents is what is written for the first, and then the rest. -/
theorem writeFrames_cons {d : Json} {ds : List Json} {written : Bytes} :
    writeFrames (d :: ds) = .ok written ↔ ∃ payload rest, writeFrame d = .ok payload ∧
      writeFrames ds = .ok rest ∧ written = payload ++ rest := by
  rw [writeFrames, writeFrames, List.mapM_cons]
  cases hd : writeFrame d with
  | error e =>
    refine ⟨fun h => (by cases h), fun h => ?_⟩
    obtain ⟨_, _, hpayload, -⟩ := h
    cases hpayload
  | ok payload =>
    cases hds : ds.mapM writeFrame with
    | error e =>
      refine ⟨fun h => (by cases h), fun h => ?_⟩
      obtain ⟨_, _, -, hrest, -⟩ := h
      cases hrest
    | ok payloads =>
      constructor
      · intro h
        exact ⟨payload, payloads.flatten, rfl, rfl, (Except.ok.inj h).symm⟩
      · rintro ⟨_, _, ⟨⟩, ⟨⟩, rfl⟩
        rfl

/-- **A frame has one newline**, its last byte. -/
theorem count_newline_of_writeFrame {d : Json} {payload : Bytes} (h : writeFrame d = .ok payload) :
    payload.count newline = 1 ∧ payload.getLast? = some newline := by
  obtain ⟨-, rfl⟩ := writeFrame_eq_ok.mp h
  refine ⟨?_, by simp⟩
  rw [List.count_append, List.count_eq_zero_of_not_mem (newline_notMem_canonical d)]
  rfl

/-- **A frame is read as it was written**, in whatever pieces it arrives. -/
theorem readFrameFrom_writeFrame {d : Json} {payload rest : Bytes} (hd : d.ordered = true)
    (hobj : d.isObj = true) (h : writeFrame d = .ok payload) {r : Reader UInt8}
    (hintime : ∀ e ∈ r.incoming, e ≠ .timeout) (hstream : r.stream = payload ++ rest) :
    ∃ r', readFrameFrom r = (.ok d, r') ∧ r'.stream = rest ∧ ∀ e ∈ r'.incoming, e ≠ .timeout := by
  have hread := readFrame_writeFrame hd hobj h
  obtain ⟨hlength, rfl⟩ := writeFrame_eq_ok.mp h
  have hlimit : (canonical d).length ≤ readerLimit := by
    rw [readerLimit]
    omega
  rw [List.append_assoc, List.singleton_append] at hstream
  obtain ⟨r', hline, hrest, hintime'⟩ :=
    readLine_of_line (newline_notMem_canonical d) hlimit hintime hstream
  refine ⟨r', ?_, hrest, hintime'⟩
  rw [readFrameFrom, hline]
  dsimp only
  rw [hread]

theorem readFrames_writeFrames {ds : List Json} {written rest : Bytes}
    (hds : ∀ d ∈ ds, d.ordered = true ∧ d.isObj = true) (h : writeFrames ds = .ok written)
    {r : Reader UInt8} (hintime : ∀ e ∈ r.incoming, e ≠ .timeout)
    (hstream : r.stream = written ++ rest) :
    ∃ r', readFrames ds.length r = (.ok ds, r') ∧ r'.stream = rest := by
  induction ds generalizing written r with
  | nil =>
    obtain rfl : [] = written := Except.ok.inj h
    exact ⟨r, rfl, hstream⟩
  | cons d ds ih =>
    obtain ⟨payload, others, hpayload, hothers, rfl⟩ := writeFrames_cons.mp h
    rw [List.append_assoc] at hstream
    obtain ⟨hordered, hobj⟩ := hds d List.mem_cons_self
    obtain ⟨r₁, hread, hleft, hintime₁⟩ :=
      readFrameFrom_writeFrame hordered hobj hpayload hintime hstream
    obtain ⟨r', hreads, hrest⟩ :=
      ih (fun d' hd' => hds d' (List.mem_cons_of_mem _ hd')) hothers hintime₁ hleft
    refine ⟨r', ?_, hrest⟩
    rw [List.length_cons, readFrames, hread]
    dsimp only
    rw [hreads]

/-- What is read was not too long, and complete. -/
theorem length_of_readFrame {raw : Bytes} {d : Json} (h : readFrame raw = .ok d) :
    raw.length ≤ maxFrameBytes ∧ raw.getLast? = some newline := by
  simp only [readFrame, Except.bind_eq_ok, require_eq_ok, exists_const] at h
  exact h.2.1

/-- **An object that is read was a line within the limit.** -/
theorem length_of_readFrameFrom {r r' : Reader UInt8} {d : Json}
    (h : readFrameFrom r = (.ok d, r')) : (readLine r.stream).1.length ≤ maxFrameBytes := by
  rw [readFrameFrom] at h
  cases hline : LineReader.readLine newline readerLimit r with
  | mk outcome r₁ =>
    rw [hline] at h
    cases outcome with
    | overrun => cases h
    | timedOut => cases h
    | line raw =>
      have hread : readFrame raw = .ok d := (Prod.mk.inj h).1
      obtain ⟨hlength, hlast⟩ := length_of_readFrame hread
      obtain ⟨hstream, ⟨body, hbody, -, hraw⟩ | ⟨hnone, -⟩⟩ := readLine_eq_line hline
      · rw [hstream, readLine_append hraw hbody]
        exact hlength
      · exact absurd (List.mem_of_getLast? hlast) hnone

/-- **Frames are self-delimiting and lossless.** What was written for any documents is read back
as the documents, in whatever pieces it arrives and whatever follows it; each frame has one
newline, its last byte; and nothing is read of a line that is longer than a frame may be. -/
theorem frames_lossless {ds : List Json} {written rest : Bytes} {chunks : List Bytes}
    (hds : ∀ d ∈ ds, d.ordered = true ∧ d.isObj = true) (hwritten : writeFrames ds = .ok written)
    (hchunks : chunks.flatten = written ++ rest) :
    (∃ r, readFrames ds.length (Reader.ofChunks chunks) = (.ok ds, r) ∧ r.stream = rest) ∧
      (∀ d payload, writeFrame d = .ok payload →
        payload.count newline = 1 ∧ payload.getLast? = some newline) ∧
      ∀ r d, (readFrameFrom r).1 = .ok d → (readLine r.stream).1.length ≤ maxFrameBytes := by
  refine ⟨?_, fun d payload => count_newline_of_writeFrame, fun r d h => ?_⟩
  · refine readFrames_writeFrames hds hwritten (fun e he => ?_) ?_
    · obtain ⟨chunk, -, rfl⟩ := List.mem_map.mp he
      exact fun hc => by cases hc
    · rw [stream_ofChunks, hchunks]
  · exact length_of_readFrameFrom (Prod.ext h rfl)

section Sample

/-- Two documents, the second with a newline in a text. -/
def twoDocuments : List Json := [.obj [("job", .int 1)], .obj [("message", .str "first\nsecond")]]

/-- What is written for them. -/
def twoFrames : Bytes := twoDocuments.flatMap fun d => canonical d ++ [newline]

theorem writeFrames_twoDocuments : writeFrames twoDocuments = .ok twoFrames := by
  have hbound : ∀ d ∈ twoDocuments, d.lengthBound < maxFrameBytes := by decide
  refine writeFrames_cons.mpr ⟨_, _, writeFrame_of_lengthBound (hbound _ (by simp [twoDocuments])),
    writeFrames_cons.mpr ⟨_, _, writeFrame_of_lengthBound (hbound _ (by simp [twoDocuments])), rfl,
      rfl⟩, ?_⟩
  simp [twoFrames, twoDocuments]

theorem frames_lossless_sample : ∃ r,
    readFrames 2 (Reader.ofChunks [twoFrames.take 3, twoFrames.drop 3]) = (.ok twoDocuments, r) ∧
      r.stream = [] := by
  have hchunks : [twoFrames.take 3, twoFrames.drop 3].flatten = twoFrames ++ [] := by simp
  exact (frames_lossless (by decide) writeFrames_twoDocuments hchunks).1

end Sample

end PrinterHmi
