import Mathlib.Data.List.TakeWhile

/-!
# Reading lines from a stream

A stream arrives in pieces, and a reader makes lines of it: each runs up to and including the
first separator. What has arrived and is in no line yet is in the *buffer*. The reader looks at
its buffer, and if there is no separator in it, it waits for more to arrive and looks again; a
line that gets longer than a *limit* is given up, and so is one that has not arrived in time.

Where the pieces end does not matter: a line that keeps to the limit is read as it was sent, and
what is left is what was sent after it (`LineReader.readLine_of_line`). What is read was there
(`LineReader.readLine_eq_line`).
-/

namespace LineReader

variable {α : Type} [DecidableEq α]

/-- What happens while a reader waits: a piece of the stream arrives, possibly an empty one, or
the time is up. -/
inductive Event (α : Type) : Type where
  | data (chunk : List α)
  | timeout
  deriving DecidableEq

/-- What an event adds to the stream. -/
def Event.bytes : Event α → List α
  | .data chunk => chunk
  | .timeout => []

/-- A reader, with all that will happen to it. After the last event the stream ends. -/
structure Reader (α : Type) : Type where
  buffer : List α
  incoming : List (Event α)
  deriving DecidableEq

/-- What is left of the stream. -/
def Reader.stream (r : Reader α) : List α := r.buffer ++ r.incoming.flatMap Event.bytes

/-- A reader of a stream that arrives in the given pieces. -/
def Reader.ofChunks (chunks : List (List α)) : Reader α := ⟨[], chunks.map .data⟩

omit [DecidableEq α] in
theorem stream_ofChunks (chunks : List (List α)) :
    (Reader.ofChunks chunks).stream = chunks.flatten := by
  rw [Reader.ofChunks, Reader.stream, List.nil_append, List.flatMap_map]
  simp [Event.bytes]

/-- What comes of reading a line. -/
inductive Outcome (α : Type) : Type where
  | line (raw : List α)
  | overrun
  | timedOut
  deriving DecidableEq

section Reading

variable (sep : α) (limit : ℕ)

/-- What a look at the buffer shows: a line is there, with what follows it; or there is more
than the limit, with what is left once that is dropped; or more has to arrive. -/
inductive Look (α : Type) : Type where
  | found (raw rest : List α)
  | tooLong (rest : List α)
  | more

/-- A look at the buffer. -/
def look (buffer : List α) : Look α :=
  match buffer.dropWhile (· ≠ sep) with
  | _ :: rest =>
    if (buffer.takeWhile (· ≠ sep)).length ≤ limit then
      .found (buffer.takeWhile (· ≠ sep) ++ [sep]) rest
    else .tooLong rest
  | [] => if buffer.length ≤ limit then .more else .tooLong []

/-- Look at the buffer before each of the events, and once more when the stream has ended: what
is left then counts as a line. -/
def readLineFrom (buffer : List α) : List (Event α) → Outcome α × Reader α
  | [] =>
    match look sep limit buffer with
    | .found raw rest => (.line raw, ⟨rest, []⟩)
    | .tooLong rest => (.overrun, ⟨rest, []⟩)
    | .more => (.line buffer, ⟨[], []⟩)
  | e :: incoming =>
    match look sep limit buffer with
    | .found raw rest => (.line raw, ⟨rest, e :: incoming⟩)
    | .tooLong rest => (.overrun, ⟨rest, e :: incoming⟩)
    | .more =>
      match e with
      | .timeout => (.timedOut, ⟨buffer, incoming⟩)
      | .data chunk => readLineFrom (buffer ++ chunk) incoming

/-- Read a line. -/
def readLine (r : Reader α) : Outcome α × Reader α := readLineFrom sep limit r.buffer r.incoming

end Reading

/-! ### One look -/

section Look

variable {sep : α} {limit : ℕ} {buffer body raw rest : List α}

theorem dropWhile_line (h : sep ∉ body) (rest : List α) :
    (body ++ sep :: rest).dropWhile (· ≠ sep) = sep :: rest := by
  have hne : ∀ b ∈ body, decide (b ≠ sep) = true := fun b hb =>
    decide_eq_true fun hc => h (hc ▸ hb)
  rw [List.dropWhile_append_of_pos hne]
  simp

theorem takeWhile_line (h : sep ∉ body) (rest : List α) :
    (body ++ sep :: rest).takeWhile (· ≠ sep) = body := by
  have hne : ∀ b ∈ body, decide (b ≠ sep) = true := fun b hb =>
    decide_eq_true fun hc => h (hc ▸ hb)
  rw [List.takeWhile_append_of_pos hne]
  simp

/-- A look at a line that is there. -/
theorem look_line (h : sep ∉ body) (hlimit : body.length ≤ limit) (rest : List α) :
    look sep limit (body ++ sep :: rest) = .found (body ++ [sep]) rest := by
  rw [look, dropWhile_line h, takeWhile_line h]
  exact if_pos hlimit

/-- A look at what is no line yet. -/
theorem look_more (h : sep ∉ buffer) (hlimit : buffer.length ≤ limit) :
    look sep limit buffer = .more := by
  have hdrop : buffer.dropWhile (· ≠ sep) = [] := List.dropWhile_eq_nil_iff.mpr fun b hb =>
    decide_eq_true fun hc => h (hc ▸ hb)
  rw [look, hdrop]
  exact if_pos hlimit

/-- **What a look finds is there**, within the limit. -/
theorem look_eq_found (h : look sep limit buffer = .found raw rest) : ∃ body, sep ∉ body ∧
    body.length ≤ limit ∧ raw = body ++ [sep] ∧ buffer = body ++ sep :: rest := by
  have hsplit : buffer = buffer.takeWhile (· ≠ sep) ++ buffer.dropWhile (· ≠ sep) :=
    List.takeWhile_append_dropWhile.symm
  rw [look] at h
  cases hdrop : buffer.dropWhile (· ≠ sep) with
  | nil =>
    rw [hdrop] at h
    dsimp only at h
    split at h <;> cases h
  | cons b tail =>
    rw [hdrop] at h
    dsimp only at h
    split at h
    · next hlimit =>
      obtain ⟨rfl, rfl⟩ := Look.found.inj h
      have hb : b = sep := by
        have hhead := List.head?_dropWhile_not (fun b => decide (b ≠ sep)) buffer
        rw [hdrop] at hhead
        simpa using hhead
      subst hb
      refine ⟨_, fun hc => ?_, hlimit, rfl, hdrop ▸ hsplit⟩
      have hpass := List.mem_takeWhile_imp hc
      exact absurd rfl (of_decide_eq_true hpass)
    · cases h

/-- Where there is no line, there is no separator. -/
theorem notMem_of_look_more (h : look sep limit buffer = .more) :
    sep ∉ buffer ∧ buffer.length ≤ limit := by
  rw [look] at h
  cases hdrop : buffer.dropWhile (· ≠ sep) with
  | nil =>
    rw [hdrop] at h
    dsimp only at h
    split at h
    · next hlimit =>
      refine ⟨fun hc => ?_, hlimit⟩
      exact absurd rfl (of_decide_eq_true (List.dropWhile_eq_nil_iff.mp hdrop sep hc))
    · cases h
  | cons b tail =>
    rw [hdrop] at h
    dsimp only at h
    split at h <;> cases h

end Look

/-! ### Reading a line -/

section Reading

variable {sep : α} {limit : ℕ} {body rest : List α}

theorem readLineFrom_cons (buffer : List α) (e : Event α) (incoming : List (Event α)) :
    readLineFrom sep limit buffer (e :: incoming) = match look sep limit buffer with
      | .found raw rest => (.line raw, ⟨rest, e :: incoming⟩)
      | .tooLong rest => (.overrun, ⟨rest, e :: incoming⟩)
      | .more => match e with
        | .timeout => (.timedOut, ⟨buffer, incoming⟩)
        | .data chunk => readLineFrom sep limit (buffer ++ chunk) incoming := rfl

/-- **A line that keeps to the limit is read as it was sent**, wherever the pieces end that it
arrives in, and what was sent after it is left. -/
theorem readLine_of_line (hsep : sep ∉ body) (hlimit : body.length ≤ limit) {r : Reader α}
    (hintime : ∀ e ∈ r.incoming, e ≠ .timeout) (hstream : r.stream = body ++ sep :: rest) :
    ∃ r', readLine sep limit r = (.line (body ++ [sep]), r') ∧ r'.stream = rest ∧
      ∀ e ∈ r'.incoming, e ≠ .timeout := by
  obtain ⟨buffer, incoming⟩ := r
  induction incoming generalizing buffer with
  | nil =>
    have hbuffer : buffer = body ++ sep :: rest := by
      rw [← hstream]
      exact (List.append_nil buffer).symm
    subst hbuffer
    refine ⟨⟨rest, []⟩, ?_, List.append_nil rest, hintime⟩
    rw [readLine, readLineFrom, look_line hsep hlimit]
  | cons e incoming ih =>
    have hpieces : buffer ++ (e :: incoming).flatMap Event.bytes = body ++ sep :: rest := hstream
    have hmore : sep ∉ buffer → buffer.length ≤ limit →
        ∃ r', readLine sep limit ⟨buffer, e :: incoming⟩ = (.line (body ++ [sep]), r') ∧
          r'.stream = rest ∧ ∀ e ∈ r'.incoming, e ≠ .timeout := by
      intro hnot hle
      rw [readLine, readLineFrom_cons, look_more hnot hle]
      cases e with
      | timeout => exact absurd rfl (hintime _ List.mem_cons_self)
      | data chunk =>
        refine ih (buffer ++ chunk) (fun e he => hintime e (List.mem_cons_of_mem _ he)) ?_
        rw [← hpieces, Reader.stream, List.flatMap_cons, List.append_assoc]
        rfl
    rcases List.append_eq_append_iff.mp hpieces with ⟨body', rfl, -⟩ | ⟨tail, hbuffer, htail⟩
    · -- no more than a part of the line has arrived
      rw [List.length_append] at hlimit
      exact hmore (fun hc => hsep (List.mem_append_left _ hc)) (by omega)
    · cases tail with
      | nil =>
        rw [List.append_nil] at hbuffer
        exact hbuffer ▸ hmore (hbuffer ▸ hsep) (hbuffer ▸ hlimit)
      | cons b tail =>
        -- the line has arrived, with some of what follows
        obtain ⟨rfl, rfl⟩ := List.cons.inj htail
        change buffer = body ++ sep :: tail at hbuffer
        subst hbuffer
        refine ⟨⟨tail, e :: incoming⟩, ?_, rfl, hintime⟩
        rw [readLine, readLineFrom_cons, look_line hsep hlimit]

/-- **What is read was there**: a line is what the stream starts with up to its first separator,
within the limit, or all of a stream that has none. -/
theorem readLine_eq_line {raw : List α} {r r' : Reader α}
    (h : readLine sep limit r = (.line raw, r')) : r.stream = raw ++ r'.stream ∧
      ((∃ body, sep ∉ body ∧ body.length ≤ limit ∧ raw = body ++ [sep]) ∨
        sep ∉ raw ∧ r'.stream = []) := by
  obtain ⟨buffer, incoming⟩ := r
  -- the induction is on the chunks that are still to come
  induction incoming generalizing buffer with
  | nil =>
    rw [readLine, readLineFrom] at h
    cases hlook : look sep limit buffer with
    | found raw' rest =>
      rw [hlook] at h
      cases h
      obtain ⟨body, hsep, hlimit, rfl, rfl⟩ := look_eq_found hlook
      exact ⟨by simp [Reader.stream], .inl ⟨body, hsep, hlimit, rfl⟩⟩
    | tooLong rest =>
      rw [hlook] at h
      cases h
    | more =>
      rw [hlook] at h
      cases h
      exact ⟨by simp [Reader.stream], .inr ⟨(notMem_of_look_more hlook).1, rfl⟩⟩
  | cons e incoming ih =>
    rw [readLine, readLineFrom_cons] at h
    cases hlook : look sep limit buffer with
    | found raw' rest =>
      rw [hlook] at h
      cases h
      obtain ⟨body, hsep, hlimit, rfl, rfl⟩ := look_eq_found hlook
      exact ⟨by simp [Reader.stream], .inl ⟨body, hsep, hlimit, rfl⟩⟩
    | tooLong rest =>
      rw [hlook] at h
      cases h
    | more =>
      rw [hlook] at h
      cases e with
      | timeout => cases h
      | data chunk =>
        obtain ⟨hstream, hline⟩ := ih (buffer ++ chunk) h
        refine ⟨?_, hline⟩
        rw [← hstream, Reader.stream, Reader.stream, List.flatMap_cons, List.append_assoc]
        rfl

end Reading

end LineReader
