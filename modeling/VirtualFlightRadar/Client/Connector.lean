import VirtualFlightRadar.Cxx.Bytes
import VirtualFlightRadar.Cxx.Lines

/-!
# Reading from a feed

`ConnectorImplBoost` reads a connection until its buffer holds a CRLF and hands out one line of the
buffer, up to the first line feed.  The buffer belongs to the connector, not to the connection: what
a broken connection leaves in it stands before the bytes of the next one.
-/

open Cxx

namespace VirtualFlightRadar

inductive ErrorCode where
  | SUCCESS
  | FAILURE
  deriving DecidableEq, Repr

def CR : UInt8 := ch '\r'

def LF : UInt8 := ch '\n'

/-- `boost::asio::async_read_until(m_socket, m_buffer, "\r\n", …)` on a connection that will still
deliver `segments` and then fail: the error code, the buffer, and the segments that are not read. -/
structure Asio where
  async_read_until : Bytes → List Bytes → ErrorCode × Bytes × List Bytes
  -- Bytes move from the connection to the end of the buffer.
  conserves : ∀ buffer segments,
    (async_read_until buffer segments).2.1 ++ (async_read_until buffer segments).2.2.flatten =
      buffer ++ segments.flatten
  -- It succeeds with the delimiter in the buffer.
  success : ∀ buffer segments, (async_read_until buffer segments).1 = .SUCCESS →
    [CR, LF] <:+: (async_read_until buffer segments).2.1
  -- It fails when the connection has nothing more to deliver and the delimiter did not come.
  failure : ∀ buffer segments, (async_read_until buffer segments).1 = .FAILURE →
    ¬ [CR, LF] <:+: (async_read_until buffer segments).2.1 ∧
      (async_read_until buffer segments).2.2 = []

namespace Asio

/-- Reads segments one by one until the delimiter has come. -/
def readUntil : Bytes → List Bytes → ErrorCode × Bytes × List Bytes
  | buffer, [] => (if [CR, LF] <:+: buffer then .SUCCESS else .FAILURE, buffer, [])
  | buffer, segment :: segments =>
      if [CR, LF] <:+: buffer then (.SUCCESS, buffer, segment :: segments)
      else readUntil (buffer ++ segment) segments

theorem readUntil_spec (buffer : Bytes) (segments : List Bytes) :
    (readUntil buffer segments).2.1 ++ (readUntil buffer segments).2.2.flatten =
        buffer ++ segments.flatten ∧
      ((readUntil buffer segments).1 = .SUCCESS → [CR, LF] <:+: (readUntil buffer segments).2.1) ∧
      ((readUntil buffer segments).1 = .FAILURE →
        ¬ [CR, LF] <:+: (readUntil buffer segments).2.1 ∧
          (readUntil buffer segments).2.2 = []) := by
  induction segments generalizing buffer with
  | nil =>
      rw [readUntil]
      by_cases hmark : [CR, LF] <:+: buffer
      · simp [hmark]
      · simp [hmark]
  | cons segment segments ih =>
      rw [readUntil]
      by_cases hmark : [CR, LF] <:+: buffer
      · simp [hmark]
      · rw [if_neg hmark, List.flatten_cons, ← List.append_assoc]
        exact ih (buffer ++ segment)

def bySegment : Asio where
  async_read_until := readUntil
  conserves buffer segments := (readUntil_spec buffer segments).1
  success buffer segments := (readUntil_spec buffer segments).2.1
  failure buffer segments := (readUntil_spec buffer segments).2.2

end Asio

structure ConnectorImplBoost where
  m_buffer : Bytes := []
  m_response : Bytes := []

namespace ConnectorImplBoost

def handleRead (this : ConnectorImplBoost) (error : ErrorCode) : ConnectorImplBoost :=
  match error with
  | .SUCCESS =>
      -- One line is taken out of the buffer, although the read may have filled in several.
      let (response, buffer) := getline LF this.m_buffer
      { m_buffer := buffer, m_response := response ++ str "\n" }
  | .FAILURE => this

/-- A read with its completion: what the callback gets as error code, the connector with the
response for it, and the segments left on the connection. -/
def onRead (asio : Asio) (this : ConnectorImplBoost) (segments : List Bytes) :
    ErrorCode × ConnectorImplBoost × List Bytes :=
  let (error, buffer, segments) := asio.async_read_until this.m_buffer segments
  (error, handleRead { this with m_buffer := buffer } error, segments)

/-- Reads until one fails. -/
def readAll (asio : Asio) : Nat → ConnectorImplBoost → List Bytes → List Bytes × ConnectorImplBoost
  -- A successful read takes a byte out of the buffer, so there are no more of them than bytes.
  | 0, this, _ => ([], this)
  | fuel + 1, this, segments =>
      match this.onRead asio segments with
      | (.SUCCESS, this, segments) =>
          let (responses, last) := readAll asio fuel this segments
          (this.m_response :: responses, last)
      | (.FAILURE, this, _) => ([], this)

-- The timer and the socket are closed; the buffer is not touched.
def close (this : ConnectorImplBoost) : ConnectorImplBoost := this

/-- One connection, from its first read to `close`: the responses handed to the callback with
`SUCCESS`, and the connector afterwards. -/
def connection (asio : Asio) (this : ConnectorImplBoost) (segments : List Bytes) :
    List Bytes × ConnectorImplBoost :=
  let read := this.readAll asio (this.m_buffer.length + segments.flatten.length + 1) segments
  (read.1, read.2.close)

def responses (asio : Asio) : ConnectorImplBoost → List (List Bytes) → List Bytes
  | _, [] => []
  | this, segments :: connections =>
      -- The client connects the same connector again.
      let (lines, this) := this.connection asio segments
      lines ++ responses asio this connections

theorem CR_ne_LF : CR ≠ LF := by decide

/-- With fuel for every byte the loop hands out the lines up to the last CRLF and leaves the rest in
the buffer, however the bytes are cut into segments. -/
theorem readAll_eq (asio : Asio) (fuel : Nat) (this : ConnectorImplBoost) (segments : List Bytes)
    (hfuel : this.m_buffer.length + segments.flatten.length < fuel) :
    (this.readAll asio fuel segments).1 = frames CR LF (this.m_buffer ++ segments.flatten) ∧
      (this.readAll asio fuel segments).2.m_buffer =
        remainder CR LF (this.m_buffer ++ segments.flatten) := by
  -- The fuel counts the bytes; every successful read takes at least a line feed out.
  induction fuel generalizing this segments with
  | zero => omega
  | succ fuel ih =>
      have hconserves := asio.conserves this.m_buffer segments
      have hsuccess := asio.success this.m_buffer segments
      have hfailure := asio.failure this.m_buffer segments
      rw [readAll, onRead]
      rcases hread : asio.async_read_until this.m_buffer segments with ⟨error, buffer, left⟩
      rw [hread] at hconserves hsuccess hfailure
      simp only at hconserves hsuccess hfailure ⊢
      rw [← hconserves]
      cases error with
      | FAILURE =>
          obtain ⟨hnot, hnil⟩ := hfailure rfl
          rw [hnil, List.flatten_nil, List.append_nil, frames_of_no_mark CR_ne_LF hnot,
            (complete_of_no_mark CR_ne_LF hnot).2]
          exact ⟨rfl, rfl⟩
      | SUCCESS =>
          have hmark := hsuccess rfl
          -- The first line of the buffer ends with its first line feed.
          have hmem : LF ∈ buffer := hmark.subset (by simp)
          have hline := getline_append hmem
          have hnot := notMem_getline LF buffer
          simp only [handleRead]
          rcases hget : getline LF buffer with ⟨line, rest⟩
          rw [hget] at hline hnot
          simp only at hline hnot ⊢
          have hall : [CR, LF] <:+: line ++ LF :: (rest ++ left.flatten) := by
            rw [← List.cons_append, ← List.append_assoc, hline]
            exact List.infix_append_of_infix_left hmark
          have hbytes : rest.length + left.flatten.length < fuel := by
            have hlen := congrArg List.length hconserves
            rw [← hline] at hlen
            simp only [List.length_append, List.length_cons] at hlen
            omega
          obtain ⟨hresponses, hbuffer⟩ := ih { m_buffer := rest, m_response := line ++ str "\n" }
            left hbytes
          rw [← hline, List.append_assoc, List.cons_append, frames_line CR_ne_LF hnot hall,
            (complete_line CR_ne_LF hnot hall).2]
          rw [hresponses, hbuffer]
          exact ⟨rfl, rfl⟩

/-- The buffer carries the remainder of each connection into the next one, so the connector frames
all the streams as one. -/
theorem responses_eq (asio : Asio) (this : ConnectorImplBoost) (connections : List (List Bytes))
    (hbuffer : ¬ [CR, LF] <:+: this.m_buffer) :
    this.responses asio connections =
      frames CR LF (this.m_buffer ++ (connections.map List.flatten).flatten) := by
  induction connections generalizing this with
  | nil =>
      rw [List.map_nil, List.flatten_nil, List.append_nil, frames_of_no_mark CR_ne_LF hbuffer]
      rfl
  | cons segments connections ih =>
      obtain ⟨hlines, hlast⟩ := readAll_eq asio
        (this.m_buffer.length + segments.flatten.length + 1) this segments (Nat.lt_succ_self _)
      -- What the connection leaves has no delimiter, as the induction needs of its start.
      have hnext := ih (this.connection asio segments).2 (by
        change ¬ [CR, LF] <:+: (this.readAll asio _ segments).2.m_buffer
        rw [hlast]
        exact not_infix_remainder _)
      rw [List.map_cons, List.flatten_cons, ← List.append_assoc, frames_append CR_ne_LF, ← hlast,
        ← hlines]
      exact congrArg ((this.connection asio segments).1 ++ ·) hnext

/-- Over all connections the callback gets the lines of each stream up to its last CRLF, exactly if
no stream leaves bytes behind its last CRLF that the later streams complete to a CRLF. -/
theorem responses_framed_iff (asio : Asio) (connections : List (List Bytes)) :
    responses asio {} connections =
        connections.flatMap (fun segments => frames CR LF segments.flatten) ↔
      ∀ before segments later, connections = before ++ segments :: later →
        remainder CR LF segments.flatten = [] ∨
          ¬ [CR, LF] <:+: remainder CR LF segments.flatten ++ (later.map List.flatten).flatten := by
  have hempty : ¬ [CR, LF] <:+: ({} : ConnectorImplBoost).m_buffer := by
    intro hmark
    exact absurd (List.infix_nil.mp hmark) (by simp)
  rw [responses_eq asio {} connections hempty, List.nil_append, ← List.flatMap_map,
    frames_flatten_iff CR_ne_LF]
  constructor
  · intro h before segments later hsplit
    have hmap := h (before.map List.flatten) segments.flatten (later.map List.flatten)
      (by rw [hsplit]; simp)
    exact hmap
  · intro h before s later hsplit
    obtain ⟨before', rest', hconnections, rfl, hrest⟩ := List.map_eq_append_iff.mp hsplit
    obtain ⟨segments, later', rfl, rfl, rfl⟩ := List.map_eq_cons_iff.mp hrest
    exact h before' segments later' hconnections

/-- A connection breaks inside a report, and the next one starts with another aircraft's: the
callback gets one line made of both. -/
theorem responses_merge_connections :
    responses .bySegment {} [[str "MSG,3,0,0,AAAAAA,0,20"], [str "MSG,3,0,0,BBBBBB,0,\r\n"]] =
      [str "MSG,3,0,0,AAAAAA,0,20MSG,3,0,0,BBBBBB,0,\r\n"] ∧
    responses .bySegment {} [[str "MSG,3,0,0,AAAAAA,0,20"], [str "MSG,3,0,0,BBBBBB,0,\r\n"]] ≠
      [[str "MSG,3,0,0,AAAAAA,0,20"], [str "MSG,3,0,0,BBBBBB,0,\r\n"]].flatMap
        (fun segments => frames CR LF segments.flatten) := by
  constructor
  · decide
  · decide

end ConnectorImplBoost

end VirtualFlightRadar
