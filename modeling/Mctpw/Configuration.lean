import Mctpw.Base.ByteOrder

set_option autoImplicit false

namespace Mctpw

open ByteOrder

inductive BindingType
  | mctpOverSmBus
  | mctpOverPcieVdm
  | mctpOverUsb
  | mctpOverKcs
  | mctpOverSerial
  | mctpOverI3C
  | vendorDefined
deriving DecidableEq

inductive MessageType
  | pldm
  | ncsi
  | ethernet
  | nvmeMgmtMsg
  | spdm
  | securedMsg
  | cxlFmApi
  | cxlCci
  | vdpci
  | vdiana
deriving DecidableEq

/-- The enumerator's underlying value. -/
def MessageType.toByte : MessageType → UInt8
  | .pldm => 0x01
  | .ncsi => 0x02
  | .ethernet => 0x03
  | .nvmeMgmtMsg => 0x04
  | .spdm => 0x05
  | .securedMsg => 0x06
  | .cxlFmApi => 0x07
  | .cxlCci => 0x08
  | .vdpci => 0x7E
  | .vdiana => 0x7F

def msgTypeToPropertyName : MessageType → String
  | .pldm => "PLDM"
  | .ncsi => "NCSI"
  | .ethernet => "Ethernet"
  | .nvmeMgmtMsg => "NVMeMgmtMsg"
  | .spdm => "SPDM"
  | .securedMsg => "SECUREDMSG"
  | .cxlFmApi => "CXLFMAPI"
  | .cxlCci => "CXLCCI"
  | .vdpci => "VDPCI"
  | .vdiana => "VDIANA"

def bindingToInterface : BindingType → String
  | .mctpOverSmBus => "xyz.openbmc_project.MCTP.Binding.SMBus"
  | .mctpOverPcieVdm => "xyz.openbmc_project.MCTP.Binding.PCIe"
  | .mctpOverUsb => ""
  | .mctpOverKcs => ""
  | .mctpOverSerial => ""
  | .mctpOverI3C => "xyz.openbmc_project.MCTP.Binding.I3C"
  | .vendorDefined => ""

/-- Value and mask, both in big-endian storage. -/
structure VendorMessageType where
  value : UInt16
  mask : UInt16
deriving DecidableEq

def VendorMessageType.cmdSetType (vendor : VendorMessageType) : UInt16 :=
  vendor.value &&& vendor.mask

structure MCTPConfiguration where
  type : MessageType
  bindingType : BindingType
  vendorId : Option UInt16
  vendorMessageType : Option VendorMessageType
deriving DecidableEq

namespace MCTPConfiguration

def setVendorId (host : Endian) (config : MCTPConfiguration) (vid : UInt16) :
    MCTPConfiguration :=
  { config with vendorId := some (htobe16 host vid) }

def setVendorMessageType (host : Endian) (config : MCTPConfiguration) (msgType mask : UInt16) :
    MCTPConfiguration :=
  { config with vendorMessageType := some ⟨htobe16 host msgType, htobe16 host mask⟩ }

/-- MCTPConfiguration(msgType, binding). -/
def ofType (msgType : MessageType) (binding : BindingType) : MCTPConfiguration :=
  ⟨msgType, binding, none, none⟩

/-- MCTPConfiguration(msgType, binding, vid), `none` where it throws. -/
def ofVendor (host : Endian) (msgType : MessageType) (binding : BindingType) (vid : UInt16) :
    Option MCTPConfiguration :=
  if msgType = .vdpci then some ((ofType msgType binding).setVendorId host vid) else none

/-- MCTPConfiguration(msgType, binding, vid, vendorMsgType, vendorMsgTypeMask). -/
def ofVendorMessage (host : Endian) (msgType : MessageType) (binding : BindingType)
    (vid vendorMsgType vendorMsgTypeMask : UInt16) : Option MCTPConfiguration :=
  (ofVendor host msgType binding vid).map fun config =>
    config.setVendorMessageType host vendorMsgType vendorMsgTypeMask

/-- The configurations the value constructors build on a host. -/
inductive Built (host : Endian) : MCTPConfiguration → Prop
  | type (msgType : MessageType) (binding : BindingType) : Built host (ofType msgType binding)
  | vendor {msgType : MessageType} {binding : BindingType} {vid : UInt16}
      {config : MCTPConfiguration} :
      ofVendor host msgType binding vid = some config → Built host config
  | vendorMessage {msgType : MessageType} {binding : BindingType}
      {vid vendorMsgType vendorMsgTypeMask : UInt16} {config : MCTPConfiguration} :
      ofVendorMessage host msgType binding vid vendorMsgType vendorMsgTypeMask = some config →
      Built host config

theorem ofVendorMessage_eq_some_iff {host : Endian} {msgType : MessageType} {binding : BindingType}
    {vid vendorMsgType vendorMsgTypeMask : UInt16} {config : MCTPConfiguration} :
    ofVendorMessage host msgType binding vid vendorMsgType vendorMsgTypeMask = some config ↔
      msgType = .vdpci ∧ config = ⟨msgType, binding, some (htobe16 host vid),
        some ⟨htobe16 host vendorMsgType, htobe16 host vendorMsgTypeMask⟩⟩ := by
  unfold ofVendorMessage ofVendor
  split
  · rename_i vdpci
    simp only [vdpci, Option.map_some, Option.some.injEq, true_and]
    exact eq_comm
  · rename_i other
    simp [other]

/-- A built configuration compares no vendor message type, or was built from one. -/
theorem Built.vendorMessage_cases {host : Endian} {config : MCTPConfiguration}
    (built : Built host config) :
    config.vendorMessageType = none ∨ ∃ vid vendorMsgType vendorMsgTypeMask,
      ofVendorMessage host config.type config.bindingType vid vendorMsgType vendorMsgTypeMask =
        some config := by
  cases built with
  | type msgType binding => exact .inl rfl
  | vendor made =>
      unfold ofVendor at made
      split at made
      · cases made
        exact .inl rfl
      · cases made
  | @vendorMessage msgType binding vid vendorMsgType vendorMsgTypeMask config made =>
      obtain ⟨_, rfl⟩ := ofVendorMessage_eq_some_iff.mp made
      exact .inr ⟨vid, vendorMsgType, vendorMsgTypeMask, made⟩

/-- A vendor message type is never configured without a vendor id. -/
theorem Built.vendor_of_message {host : Endian} {config : MCTPConfiguration}
    (built : Built host config) (message : config.vendorMessageType.isSome) :
    config.vendorId.isSome := by
  cases built with
  | type msgType binding => cases message
  | vendor made =>
      unfold ofVendor at made
      split at made
      · cases made
        rfl
      · cases made
  | vendorMessage made =>
      unfold ofVendorMessage ofVendor at made
      split at made
      · cases made
        rfl
      · cases made

/-- Only a VDPCI configuration carries vendor parameters. -/
theorem Built.vdpci_of_vendor {host : Endian} {config : MCTPConfiguration}
    (built : Built host config) (vendor : config.vendorId.isSome) : config.type = .vdpci := by
  cases built with
  | type msgType binding => cases vendor
  | vendor made =>
      unfold ofVendor at made
      split at made
      · rename_i same
        cases made
        exact same
      · cases made
  | vendorMessage made =>
      unfold ofVendorMessage ofVendor at made
      split at made
      · rename_i same
        cases made
        exact same
      · cases made

end MCTPConfiguration

end Mctpw
