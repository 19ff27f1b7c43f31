import RequestSurface.Location.Basic
import RequestSurface.Reading.Fault

/-!
# Reports of faults

All faults of a value, told together with what was given at each place and with the page that
explains it.
-/

namespace RequestSurface

/-- The page that explains a demand. -/
def Demand.page (demand : Demand) : Location where
  scheme := "https"
  host := "errors.pydantic.dev"
  path := "/2.14/v/" ++ demand.code

/-- The lines on a fault. There is none for the place when that is the whole value. -/
def Fault.report (fault : Fault) : List String :=
  let place := String.intercalate "." (fault.location.map Step.text)
  let given := Text.abridge fault.given.literal
  (if fault.location.isEmpty then [] else [place]) ++
    [s!"  {fault.demand.message} [type={fault.demand.code}, input_value={given}, " ++
        s!"input_type={fault.given.kind}]",
      "    For further information visit " ++ fault.demand.page.text]

/-- The report of all faults of a record. -/
def reportFaults (record : String) (faults : List Fault) : String :=
  let noun := if faults.length = 1 then "error" else "errors"
  String.intercalate "\n"
    (s!"{faults.length} validation {noun} for {record}" :: faults.flatMap Fault.report)

end RequestSurface
