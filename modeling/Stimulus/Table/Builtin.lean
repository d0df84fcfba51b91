import Stimulus.Table.Basic

/-!
The table that is used unless another one is given: the stimuli of the LWM2M and IPSO
interoperability test descriptions, for the REST API of the Leshan server demo.  Each entry is one
request, and none has a link.
-/

namespace Stimulus.Table

namespace Builtin

def whole (n : Int) : Json := .number (.integer n)

def resource (id : Int) (value : Json) : Json :=
  .ofMembers [("id", whole id), ("value", value)]

def objectInstance (id : String) (resources : List Json) : Json :=
  .ofMembers [("id", .string id), ("resources", .array resources)]

def read (path : String) (format : ContentFormat) : Descriptor :=
  ⟨none, .get, path, format, none, none⟩

def write (path : String) (format : ContentFormat) (payload : Option Json) : Descriptor :=
  ⟨none, .put, path, format, payload, none⟩

def create (path : String) (format : ContentFormat) (payload : Option Json) : Descriptor :=
  ⟨none, .post, path, format, payload, none⟩

def delete (path : String) : Descriptor :=
  ⟨none, .delete, path, .unspecified, none, none⟩

def described (description : String) (descriptor : Descriptor) : Descriptor :=
  { descriptor with description := some description }

/-- Reading the device object (3). -/
def deviceReads : List (String × Descriptor) := [
  ("TD_LWM2M_1_INT_201_step_01",
    described "read resource" <|
      read "/3/0/0" .text),
  ("TD_LWM2M_1_INT_201_step_05", read "/3/0/1" .text),
  ("TD_LWM2M_1_INT_201_step_09", read "/3/0/2" .text),
  ("TD_LWM2M_1_INT_203_step_01", read "/3/0" .tlv),
  ("TD_LWM2M_1_INT_204_step_01",
    described "read instance" <|
      read "/3/0" .json)]

/-- Writing resources of the server object (1). -/
def serverResources : List (String × Descriptor) := [
  ("TD_LWM2M_1_INT_205_step_01",
    described "write resource" <|
      write "/1/0/2" .text (resource 2 (whole 1000000))),
  ("TD_LWM2M_1_INT_205_step_05", write "/1/0/3" .text (resource 3 (whole 10000000))),
  ("TD_LWM2M_1_INT_205_step_09", write "/1/0/5" .text (resource 5 (whole 500000))),
  ("TD_LWM2M_1_INT_205_step_13", read "/1/0/2" .tlv),
  ("TD_LWM2M_1_INT_205_step_17", read "/1/0/3" .tlv),
  ("TD_LWM2M_1_INT_205_step_21", read "/1/0/5" .tlv),
  ("TD_LWM2M_1_INT_205_step_25", write "/1/0/2" .text (resource 2 (whole 100000))),
  ("TD_LWM2M_1_INT_205_step_29", write "/1/0/3" .text (resource 3 (whole 1000000))),
  ("TD_LWM2M_1_INT_205_step_33", write "/1/0/5" .text (resource 5 (whole 2000))),
  ("TD_LWM2M_1_INT_205_step_37", read "/1/0/2" .tlv),
  ("TD_LWM2M_1_INT_205_step_41", read "/1/0/3" .tlv),
  ("TD_LWM2M_1_INT_205_step_45", read "/1/0/5" .tlv)]

/-- Writing an instance of the server object (1). -/
def serverInstances : List (String × Descriptor) := [
  ("TD_LWM2M_1_INT_220_step_01",
    described "update server instance" <|
      write "/1/0" .json
      (objectInstance "0" [
        resource 1 (whole 25000000000),
        resource 2 (whole 1000000),
        resource 3 (whole 10000000),
        resource 5 (whole 20000),
        resource 6 (.string "true"),
        resource 7 (.string "U")])),
  ("TD_LWM2M_1_INT_220_step_05", read "/1/0" .json),
  ("TD_LWM2M_1_INT_220_step_09",
    described "restore initial values" <|
      write "/1/0" .json
      (objectInstance "0" [
        resource 1 (whole 250000000),
        resource 2 (whole 10000),
        resource 3 (whole 100000),
        resource 5 (whole 2000),
        resource 6 (.string "false"),
        resource 7 (.string "U")])),
  ("TD_LWM2M_1_INT_220_step_13", read "/1/0" .json)]

/-- Creating an instance of the server object (1). -/
def serverCreations : List (String × Descriptor) := [
  ("TD_LWM2M_1_INT_270_step_01",
    described "create instance" <|
      create "/1" .json
      (objectInstance "1" [
        resource 3 (whole 1000000),
        resource 3 (whole 10000000),
        resource 7 (.string "U")])),
  ("TD_LWM2M_1_INT_270_step_05", read "/1" .json)]

/-- Attributes and observation of the device object (3). -/
def deviceAttributes : List (String × Descriptor) := [
  ("TD_LWM2M_1_INT_301_step_01", read "/3/0/6" .json),
  ("TD_LWM2M_1_INT_301_step_05",
    described "write attributes" <|
      write "/3/0/7?pmin=5&pmax=15" .json none),
  ("TD_LWM2M_1_INT_301_step_09",
    described "write attributes" <|
      write "/3/0/8?pmin=10&pmax=20" .json none),
  ("TD_LWM2M_1_INT_301_step_13",
    described "observe" <|
      read "/3/0/6/observe" .json),
  ("TD_LWM2M_1_INT_301_step_17",
    described "observe" <|
      read "/3/0/7/observe" .json)]

/-- The generic sensor object (3300). -/
def genericSensor : List (String × Descriptor) := [
  ("TD_IPSO_3300_01_step_01", read "/3300/0/5700" .text),
  ("TD_IPSO_3300_01_step_05", read "/3300/0/5701" .text),
  ("TD_IPSO_3300_02_step_01", read "/3300/0" .json),
  ("TD_IPSO_3300_03_step_01",
    write "/3300/0" .json
      (objectInstance "0" [resource 5750 (.string "C02")])),
  ("TD_IPSO_3300_04_step_01",
    create "/3300" .json
      (objectInstance "1" [resource 5750 (.string "C02")])),
  ("TD_IPSO_3300_04_step_05", read "/3300/1" .json),
  ("TD_IPSO_3300_05_step_01", delete "/3300/0")]

/-- The presence object (3302). -/
def presence : List (String × Descriptor) := [
  ("TD_IPSO_3302_01_step_01", read "/3302/0" .json),
  ("TD_IPSO_3302_02_step_01", read "/3302/0/5500" .text),
  ("TD_IPSO_3302_02_step_05", read "/3302/0/5500" .text),
  ("TD_IPSO_3302_03_step_01",
    create "/3302" .json
      (objectInstance "1" [resource 5500 (.string "True")])),
  ("TD_IPSO_3302_03_step_05", read "/3302/1" .json),
  ("TD_IPSO_3302_04_step_01",
    described "update instance" <|
      write "/3302/0/" .json
      (objectInstance "0" [resource 5903 (whole 100), resource 5904 (whole 200)])),
  ("TD_IPSO_3302_05_step_01", delete "/3302/0")]

/-- The temperature object (3303). -/
def temperature : List (String × Descriptor) := [
  ("TD_IPSO_3303_01_step_01", read "/3303/0/5700" .text),
  ("TD_IPSO_3303_01_step_05", read "/3303/0/5701" .text),
  ("TD_IPSO_3303_02_step__01",
    described "create instance" <|
      create "/3303" .json
      (objectInstance "1" [resource 5700 (whole 37)])),
  ("TD_IPSO_3303_03_step_01", delete "/3303/1")]

/-- The humidity object (3304). -/
def humidity : List (String × Descriptor) := [
  ("TD_IPSO_3304_01_step_01", read "/3304/0" .json),
  ("TD_IPSO_3304_02_step_01",
    create "/3304" .json
      (objectInstance "1" [resource 5700 (.number (.float ⟨false, 55 * 0x800000000000, -47⟩))])),
  ("TD_IPSO_3304_02_step_05", read "/3304/1" .unspecified),
  ("TD_IPSO_3304_03_step_01", delete "/3304/1")]

/-- The actuation object (3306). -/
def actuation : List (String × Descriptor) := [
  ("TD_IPSO_3306_01_step_01", read "/3306/0" .json),
  ("TD_IPSO_3306_02_step_01",
    create "/3306" .json
      (objectInstance "1" [resource 5850 (.boolean true)])),
  ("TD_IPSO_3306_02_step_05", read "/3306/1" .json),
  ("TD_IPSO_3306_03_step_01", delete "/3306/1")]

end Builtin

/-- The table that is used unless another one is given. -/
def builtin : Table :=
  .ofEntries "leshan" <| List.flatten [
    Builtin.deviceReads, Builtin.serverResources, Builtin.serverInstances, Builtin.serverCreations,
    Builtin.deviceAttributes, Builtin.genericSensor, Builtin.presence,
    Builtin.temperature, Builtin.humidity, Builtin.actuation]

end Stimulus.Table
