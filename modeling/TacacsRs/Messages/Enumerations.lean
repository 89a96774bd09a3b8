import TacacsRs.Rust.Enums

/-!
# Enumerations of the TACACS+ messages

The enumerations and flag types that the header, the packet and the accounting
bodies read and write, with the values of the source.
-/

namespace TacacsRs.Messages

open Rust

/-- The high half of the version byte. -/
inductive TacacsMajorVersion where
  | tacacsPlusMajor1
  deriving DecidableEq, Repr

instance : PrimitiveEnum TacacsMajorVersion where
  name := "TacacsMajorVersion"
  discriminant
    | .tacacsPlusMajor1 => 0xc
  variants := [.tacacsPlusMajor1]
  mem_variants a := by cases a; decide
  discriminant_injective a b _ := by cases a; cases b; rfl

/-- The low half of the version byte. -/
inductive TacacsMinorVersion where
  | tacacsPlusMinorVerDefault
  | tacacsPlusMinorVerOne
  deriving DecidableEq, Repr

instance : PrimitiveEnum TacacsMinorVersion where
  name := "TacacsMinorVersion"
  discriminant
    | .tacacsPlusMinorVerDefault => 0x0
    | .tacacsPlusMinorVerOne => 0x1
  variants := [.tacacsPlusMinorVerDefault, .tacacsPlusMinorVerOne]
  mem_variants a := by cases a <;> decide
  discriminant_injective a b h := by cases a <;> cases b <;> first | rfl | simp at h

/-- What a packet is about. -/
inductive TacacsType where
  | tacPlusAuthentication
  | tacPlusAuthorisation
  | tacPlusAccounting
  deriving DecidableEq, Repr

instance : PrimitiveEnum TacacsType where
  name := "TacacsType"
  discriminant
    | .tacPlusAuthentication => 0x1
    | .tacPlusAuthorisation => 0x2
    | .tacPlusAccounting => 0x3
  variants := [.tacPlusAuthentication, .tacPlusAuthorisation, .tacPlusAccounting]
  mem_variants a := by cases a <;> decide
  discriminant_injective a b h := by cases a <;> cases b <;> first | rfl | simp at h

/-- The flags byte of a header; `0x05` covers the two declared constants. -/
abbrev TacacsFlags := BitFlags 0x05

namespace TacacsFlags

/-- The body is in the clear. -/
def tacPlusUnencryptedFlag : TacacsFlags := ⟨0x01⟩

/-- More sessions may share the connection. -/
def tacPlusSingleConnectFlag : TacacsFlags := ⟨0x04⟩

end TacacsFlags

/-- How a user has authenticated. -/
inductive TacacsAuthenticationType where
  | tacPlusAuthenTypeNotSet
  | tacPlusAuthenTypeAscii
  | tacPlusAuthenTypePap
  | tacPlusAuthenTypeChap
  | tacPlusAuthenTypeMschap
  | tacPlusAuthenTypeMschapv2
  deriving DecidableEq, Repr

instance : PrimitiveEnum TacacsAuthenticationType where
  name := "TacacsAuthenticationType"
  discriminant
    | .tacPlusAuthenTypeNotSet => 0x00
    | .tacPlusAuthenTypeAscii => 0x1
    | .tacPlusAuthenTypePap => 0x2
    | .tacPlusAuthenTypeChap => 0x3
    | .tacPlusAuthenTypeMschap => 0x5
    | .tacPlusAuthenTypeMschapv2 => 0x6
  variants := [.tacPlusAuthenTypeNotSet, .tacPlusAuthenTypeAscii, .tacPlusAuthenTypePap,
    .tacPlusAuthenTypeChap, .tacPlusAuthenTypeMschap, .tacPlusAuthenTypeMschapv2]
  mem_variants a := by cases a <;> decide
  discriminant_injective a b h := by cases a <;> cases b <;> first | rfl | simp at h

/-- The service for which a user has authenticated. -/
inductive TacacsAuthenticationService where
  | tacPlusAuthenSvcNone
  | tacPlusAuthenSvcLogin
  | tacPlusAuthenSvcEnable
  | tacPlusAuthenSvcPpp
  | tacPlusAuthenSvcPt
  | tacPlusAuthenSvcRcmd
  | tacPlusAuthenSvcX25
  | tacPlusAuthenSvcNasi
  | tacPlusAuthenSvcFwproxy
  deriving DecidableEq, Repr

instance : PrimitiveEnum TacacsAuthenticationService where
  name := "TacacsAuthenticationService"
  discriminant
    | .tacPlusAuthenSvcNone => 0x0
    | .tacPlusAuthenSvcLogin => 0x1
    | .tacPlusAuthenSvcEnable => 0x2
    | .tacPlusAuthenSvcPpp => 0x3
    | .tacPlusAuthenSvcPt => 0x5
    | .tacPlusAuthenSvcRcmd => 0x6
    | .tacPlusAuthenSvcX25 => 0x7
    | .tacPlusAuthenSvcNasi => 0x8
    | .tacPlusAuthenSvcFwproxy => 0x9
  variants := [.tacPlusAuthenSvcNone, .tacPlusAuthenSvcLogin, .tacPlusAuthenSvcEnable,
    .tacPlusAuthenSvcPpp, .tacPlusAuthenSvcPt, .tacPlusAuthenSvcRcmd, .tacPlusAuthenSvcX25,
    .tacPlusAuthenSvcNasi, .tacPlusAuthenSvcFwproxy]
  mem_variants a := by cases a <;> decide
  discriminant_injective a b h := by cases a <;> cases b <;> first | rfl | simp at h

/-- Which authority has authenticated a user. -/
inductive TacacsAuthenticationMethod where
  | tacPlusAuthenMethodNotSet
  | tacPlusAuthenMethodNone
  | tacPlusAuthenMethodKrb5
  | tacPlusAuthenMethodLine
  | tacPlusAuthenMethodEnable
  | tacPlusAuthenMethodLocal
  | tacPlusAuthenMethodTacacsplus
  | tacPlusAuthenMethodGuest
  | tacPlusAuthenMethodRadius
  | tacPlusAuthenMethodKrb4
  | tacPlusAuthenMethodRcmd
  deriving DecidableEq, Repr

instance : PrimitiveEnum TacacsAuthenticationMethod where
  name := "TacacsAuthenticationMethod"
  discriminant
    | .tacPlusAuthenMethodNotSet => 0x00
    | .tacPlusAuthenMethodNone => 0x01
    | .tacPlusAuthenMethodKrb5 => 0x02
    | .tacPlusAuthenMethodLine => 0x03
    | .tacPlusAuthenMethodEnable => 0x04
    | .tacPlusAuthenMethodLocal => 0x05
    | .tacPlusAuthenMethodTacacsplus => 0x06
    | .tacPlusAuthenMethodGuest => 0x08
    | .tacPlusAuthenMethodRadius => 0x10
    | .tacPlusAuthenMethodKrb4 => 0x11
    | .tacPlusAuthenMethodRcmd => 0x20
  variants := [.tacPlusAuthenMethodNotSet, .tacPlusAuthenMethodNone, .tacPlusAuthenMethodKrb5,
    .tacPlusAuthenMethodLine, .tacPlusAuthenMethodEnable, .tacPlusAuthenMethodLocal,
    .tacPlusAuthenMethodTacacsplus, .tacPlusAuthenMethodGuest, .tacPlusAuthenMethodRadius,
    .tacPlusAuthenMethodKrb4, .tacPlusAuthenMethodRcmd]
  mem_variants a := by cases a <;> decide
  discriminant_injective a b h := by cases a <;> cases b <;> first | rfl | simp at h

/-- The flags byte of an accounting request; `0x0e` covers the three declared constants. -/
abbrev TacacsAccountingFlags := BitFlags 0x0e

namespace TacacsAccountingFlags

/-- The record is one of a beginning. -/
def start : TacacsAccountingFlags := ⟨0x02⟩

/-- The record is one of an end. -/
def stop : TacacsAccountingFlags := ⟨0x04⟩

/-- The record is one of something that goes on. -/
def watchdog : TacacsAccountingFlags := ⟨0x08⟩

end TacacsAccountingFlags

/-- What a server says of a record. -/
inductive TacacsAccountingStatus where
  | tacPlusAcctStatusSuccess
  | tacPlusAcctStatusError
  | tacPlusAcctStatusFollow
  deriving DecidableEq, Repr

instance : PrimitiveEnum TacacsAccountingStatus where
  name := "TacacsAccountingStatus"
  discriminant
    | .tacPlusAcctStatusSuccess => 0x01
    | .tacPlusAcctStatusError => 0x02
    | .tacPlusAcctStatusFollow => 0x21
  variants := [.tacPlusAcctStatusSuccess, .tacPlusAcctStatusError, .tacPlusAcctStatusFollow]
  mem_variants a := by cases a <;> decide
  discriminant_injective a b h := by cases a <;> cases b <;> first | rfl | simp at h

end TacacsRs.Messages
