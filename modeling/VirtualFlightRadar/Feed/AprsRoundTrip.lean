import VirtualFlightRadar.Feed.AprsHeader

/-!
# Reports of the Open Glider Network, written and read again

A report is rendered field by field, and every field is read back.  Another `id` of the comment would
be an earlier match, so there must not be one.
-/

open Cxx

namespace VirtualFlightRadar

namespace AprsParser

/-- A report whose comment is that of the network, with one `id`. -/
structure OgnReport extends Header where
  comment : OgnComment
  unique : ∀ a b, comment.text = a ++ b → idAt b = true → a = comment.head

namespace OgnReport

/-- `SRC>APRS,PATH:/HHMMSShDDMM.mmN<sym>DDDMM.mmE<sym>CCC/SSS/A=FFFFFF COMMENT` -/
def text (r : OgnReport) : Bytes := r.toHeader.text r.comment.text

/-- A report is accepted unless it is too high, whatever its symbols, path and trailing text are, and
every field of the aircraft has the value of its field. -/
theorem unpack_text (r : OgnReport) (boost : BoostRegex) (clock : DateTime) (s_maxHeight : Int32)
    (aircraft : Aircraft) :
    ∃ altitude : Int32, altitude.toInt = round ((r.feet : ℚ) * 0.3048) ∧
      unpack boost clock s_maxHeight r.text aircraft =
        if round ((r.feet : ℚ) * 0.3048) ≤ s_maxHeight.toInt then
          (true, { aircraft with
            m_id := r.comment.id
            m_idType := ⟨r.comment.code &&& 0x03⟩
            m_aircraftType := if (r.comment.code &&& 0x7C) >>> 2 > 15 then .UNKNOWN
              else ⟨(r.comment.code &&& 0x7C) >>> 2⟩
            m_targetType := .FLARM
            m_position := r.position altitude
            m_movement := {
              heading := .fin r.course
              gndSpeed := .fin (r.speed * 0.514444)
              climbRate := .fin (r.comment.climbFpm * 0.00508) }
            m_timeStamp := r.timeStamp clock
            m_fullInfo := true })
        else (false, { aircraft with m_position := r.position altitude }) := by
  obtain ⟨altitude, hround, hunpack⟩ := r.unpack_comment boost clock s_maxHeight
    r.comment.text_ne_nil (r.comment.matchAll_text r.unique) aircraft
  refine ⟨altitude, hround, ?_⟩
  rw [text, hunpack]
  simp only [r.comment.parseComment_groups,
    r.parseMovement_groups r.comment.text r.comment.stod_climb]

example : Nonempty OgnReport := by
  let comment : OgnComment := {
    precision := some 38, type := str "0D", id := str "AAAAAA", climbNeg := true, climb := 138
    turnNeg := false, turn := str "0", turnFrac := str "0", trailing := str " 6.2dB 0e gps4x4"
    precision_lt := by decide
    type_run := ⟨by decide, by decide⟩
    id_run := ⟨by decide, by decide⟩
    climb_lt := by decide
    turn_digits := by decide
    turnFrac_digits := by decide }
  have hunique : ∀ i ≤ comment.text.length, idAt (comment.text.drop i) = true →
      comment.text.take i = comment.head := by decide
  exact ⟨{
    src := str "ICAAAAAAA", path := str "qAR", hour := 8, minute := 17, second := 33
    latDeg := 49, latMin := 0, south := false, symTable := ch '/'
    lonDeg := 8, lonMin := 0, west := true, symCode := ch ':'
    course := 180, speed := 3, feet := 1000, comment := comment
    src_chars := by decide
    src_first := by decide
    path_chars := by decide
    hour_lt := by decide, minute_lt := by decide, second_lt := by decide
    latDeg_lt := by decide, latMin_lt := by decide, lonDeg_lt := by decide
    lonMin_lt := by decide, course_lt := by decide, speed_lt := by decide, feet_lt := by decide
    unique := by
      intro a b heq hid
      have hat := hunique a.length (by rw [heq]; simp)
      rw [heq, List.drop_left, List.take_left] at hat
      exact hat hid }⟩

end OgnReport

end AprsParser

end VirtualFlightRadar
