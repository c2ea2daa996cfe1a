import Warehouse.Failure

/-! # Failures and their codes

A failure that has a code is a refusal: it belongs to a family and has a message
(`Failure.isSome_refusal?`, `Failure.isSome_message?`). Different codes have different texts
(`ErrorCode.text_inj`), so the text of a code tells the causes apart. -/

namespace Warehouse

/-- Codes are told apart by their texts. -/
theorem ErrorCode.text_inj {first second : ErrorCode} :
    first.text = second.text ↔ first = second := by
  refine ⟨fun same => ?_, congrArg ErrorCode.text⟩
  cases first <;> cases second <;> first | rfl | exact absurd same (by decide)

namespace Failure

/-- The failures with a code are those that belong to a family. -/
theorem isSome_refusal? (failure : Failure) :
    failure.refusal?.isSome = failure.code?.isSome := by
  cases failure with
  | type fault | table fault | request fault => cases fault <;> rfl
  | catalog _ | cell _ | usage _ | settings _ | connection _ | logging _ => rfl

/-- A failure with a code has a message. -/
theorem isSome_message? {failure : Failure} (coded : failure.code?.isSome = true) :
    failure.message?.isSome = true := by
  cases failure with
  | type fault | table fault => cases fault <;> first | rfl | cases coded
  | request fault =>
      cases fault with
      | cascadeUnsupported dialect => cases dialect <;> rfl
      | nameNotText | noDatabases _ => cases coded
      | invalidName _ _ | tooManyColumns _ _ | foreignColumn _ _ _ | keysNotInColumns _
      | nullableKey _ | reservedTableName _ | storageColumnMissing _ | sessionMarkMissing _
      | noTemporaryTables _ => rfl
  | catalog _ => rfl
  | cell _ | usage _ | settings _ | connection _ | logging _ => cases coded

end Failure

end Warehouse
