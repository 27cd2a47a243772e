import VirtualFlightRadar.Object.GpsPosition

/-! The stores of the sensor feeds: each keeps one sentence that it forwards. -/

open Cxx

namespace VirtualFlightRadar

structure WindData where
  m_wind : Wind := {}

namespace WindData

-- A sentence is forwarded once.
def get_serialized (this : WindData) (dest : Bytes) : Bytes × WindData :=
  let wind := this.m_wind.incr
  (dest ++ wind.m_serialized, { m_wind := { wind with m_serialized := [] } })

def update (this : WindData) (wind : Wind) : Bool × WindData :=
  let (updated, wind) := tryUpdate this.m_wind wind
  (updated, { m_wind := wind })

theorem update_eq (this : WindData) (wind : Wind) :
    this.update wind = if wind.canUpdate this.m_wind then (true, { m_wind := wind.assign })
      else (false, this) := by
  have hcan : Updatable.canUpdate wind this.m_wind = wind.canUpdate this.m_wind := rfl
  unfold update tryUpdate
  rw [hcan]
  cases wind.canUpdate this.m_wind
  · rfl
  · rfl

end WindData

structure AtmosphereData where
  m_atmosphere : Atmosphere := {}

namespace AtmosphereData

def get_serialized (this : AtmosphereData) (dest : Bytes) : Bytes × AtmosphereData :=
  let atmosphere := { this.m_atmosphere with toObject := this.m_atmosphere.toObject.incr }
  (dest ++ atmosphere.m_serialized, { m_atmosphere := atmosphere })

def update (this : AtmosphereData) (atmosphere : Atmosphere) : Bool × AtmosphereData :=
  let (updated, atmosphere) := tryUpdate this.m_atmosphere atmosphere
  (updated, { m_atmosphere := atmosphere })

theorem update_eq (this : AtmosphereData) (atmosphere : Atmosphere) :
    this.update atmosphere =
      if atmosphere.toObject.canUpdate this.m_atmosphere.toObject then
        (true, { m_atmosphere := { atmosphere with toObject := atmosphere.toObject.assign } })
      else (false, this) := by
  have hcan : Updatable.canUpdate atmosphere this.m_atmosphere =
      atmosphere.toObject.canUpdate this.m_atmosphere.toObject := rfl
  unfold update tryUpdate
  rw [hcan]
  cases atmosphere.toObject.canUpdate this.m_atmosphere.toObject
  · rfl
  · rfl

def get_atmPressure (this : AtmosphereData) : Double := this.m_atmosphere.m_pressure

end AtmosphereData

end VirtualFlightRadar
