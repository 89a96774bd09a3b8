import TacacsRs.Messages.AccountingRequest

/-!
# The accounting command of tacon

The request that the command line tool sends for one command, built from the
texts the user gives it.
-/

namespace TacacsRs.Tacon

open Rust Messages

/-- The arguments of the record: the shell, the command and its own arguments. -/
def commandArgs (cmd : String) (cmdArgs : Option (List String)) : List String :=
  ["service=shell", "cmd=" ++ cmd] ++ (cmdArgs.getD []).map fun arg => "cmd-arg=" ++ arg

/-- The request built by `send_accounting_request`. -/
def accountingRequest (user port remAddress cmd : String) (cmdArgs : Option (List String)) :
    AccountingRequest where
  flags := TacacsAccountingFlags.start.union TacacsAccountingFlags.stop
  authenMethod := .tacPlusAuthenMethodNone
  privLvl := 0
  authenType := .tacPlusAuthenTypeNotSet
  authenService := .tacPlusAuthenSvcNone
  user := user
  port := port
  remAddress := remAddress
  args := commandArgs cmd cmdArgs

theorem isDeclared_accountingRequest (user port remAddress cmd : String)
    (cmdArgs : Option (List String)) :
    (accountingRequest user port remAddress cmd cmdArgs).flags.IsDeclared := by
  have h : (TacacsAccountingFlags.start.union TacacsAccountingFlags.stop).IsDeclared := by decide
  exact h

/-- What the user may type so that every length of the request fits its byte. -/
theorem representable_accountingRequest_iff {user port remAddress cmd : String}
    {cmdArgs : Option (List String)} :
    (accountingRequest user port remAddress cmd cmdArgs).Representable ↔
      len user ≤ 255 ∧ len port ≤ 255 ∧ len remAddress ≤ 255 ∧ len cmd ≤ 251 ∧
        (cmdArgs.getD []).length ≤ 253 ∧ ∀ arg ∈ cmdArgs.getD [], len arg ≤ 247 := by
  have hshell : len "service=shell" = 13 := by decide
  have hcmd : len "cmd=" = 4 := by decide
  have hcmdArg : len "cmd-arg=" = 8 := by decide
  have hargs : (commandArgs cmd cmdArgs).length ≤ 255 ↔ (cmdArgs.getD []).length ≤ 253 := by
    simp only [commandArgs, List.length_append, List.length_cons, List.length_nil,
      List.length_map]
    omega
  have harg : (∀ arg ∈ commandArgs cmd cmdArgs, len arg ≤ 255) ↔
      len cmd ≤ 251 ∧ ∀ arg ∈ cmdArgs.getD [], len arg ≤ 247 := by
    simp only [commandArgs, List.cons_append, List.nil_append, List.forall_mem_cons,
      List.forall_mem_map, len_append, hshell, hcmd, hcmdArg]
    constructor
    · rintro ⟨-, hcmdLen, hrest⟩
      exact ⟨by omega, fun arg hmem => by have := hrest arg hmem; omega⟩
    · rintro ⟨hcmdLen, hrest⟩
      exact ⟨by omega, by omega, fun arg hmem => by have := hrest arg hmem; omega⟩
  constructor
  · intro h
    obtain ⟨hcmdLen, hcmdArgs⟩ := harg.mp h.arg
    exact ⟨h.user, h.port, h.remAddress, hcmdLen, hargs.mp h.args, hcmdArgs⟩
  · rintro ⟨huser, hport, hrem, hcmdLen, hcount, hcmdArgs⟩
    exact ⟨huser, hport, hrem, hargs.mpr hcount, harg.mpr ⟨hcmdLen, hcmdArgs⟩⟩

section Records

variable {user port remAddress cmd user' port' remAddress' cmd' : String}
  {cmdArgs cmdArgs' : Option (List String)}

theorem commandArgs_inj :
    commandArgs cmd cmdArgs = commandArgs cmd' cmdArgs' ↔
      cmd = cmd' ∧ cmdArgs.getD [] = cmdArgs'.getD [] := by
  have hcmdArg : Function.Injective fun arg : String => "cmd-arg=" ++ arg :=
    fun arg arg' h => (String.append_right_inj _).mp h
  constructor
  · intro h
    obtain ⟨hcmd, hargs⟩ := List.cons.inj (List.cons.inj h).2
    exact ⟨(String.append_right_inj _).mp hcmd, hcmdArg.list_map hargs⟩
  · rintro ⟨rfl, hargs⟩
    rw [commandArgs, commandArgs, hargs]

/-- The record says what was typed: no command line is passed off as another one. -/
theorem accountingRequest_inj :
    accountingRequest user port remAddress cmd cmdArgs =
        accountingRequest user' port' remAddress' cmd' cmdArgs' ↔
      user = user' ∧ port = port' ∧ remAddress = remAddress' ∧ cmd = cmd' ∧
        cmdArgs.getD [] = cmdArgs'.getD [] := by
  simp only [accountingRequest, AccountingRequest.mk.injEq, true_and, commandArgs_inj]

/-- Of the bodies that two command lines leave, one begins with the other only if the same was
typed, where both fit the lengths of the body. -/
theorem bodies_tell_command_lines_apart
    (h : (accountingRequest user port remAddress cmd cmdArgs).Representable)
    (h' : (accountingRequest user' port' remAddress' cmd' cmdArgs').Representable) :
    (accountingRequest user port remAddress cmd cmdArgs).toBytes <+:
        (accountingRequest user' port' remAddress' cmd' cmdArgs').toBytes ↔
      user = user' ∧ port = port' ∧ remAddress = remAddress' ∧ cmd = cmd' ∧
        cmdArgs.getD [] = cmdArgs'.getD [] := by
  rw [← accountingRequest_inj]
  refine ⟨fun ⟨trailing, hbytes⟩ => ?_, fun hsame => hsame ▸ List.prefix_rfl⟩
  have hfirst := AccountingRequest.fromBytes_eq_ok_iff.mpr
    ⟨isDeclared_accountingRequest .., h, trailing, hbytes.symm⟩
  have hsecond := AccountingRequest.fromBytes_eq_ok_iff.mpr
    ⟨isDeclared_accountingRequest .., h', [], (List.append_nil _).symm⟩
  exact Outcome.ok.inj (hfirst.symm.trans hsecond)

/-- An argument that reads like a part of the command is told apart from it. -/
theorem bodies_tell_command_lines_apart_show :
    (accountingRequest "admin" "tty0" "10.0.0.1" "show" (some ["run"])).toBytes <+:
        (accountingRequest "admin" "tty0" "10.0.0.1" "show run" none).toBytes ↔
      "admin" = "admin" ∧ "tty0" = "tty0" ∧ "10.0.0.1" = "10.0.0.1" ∧ "show" = "show run" ∧
        (some ["run"] : Option (List String)).getD [] = (none : Option (List String)).getD [] :=
  bodies_tell_command_lines_apart (representable_accountingRequest_iff.mpr (by decide))
    (representable_accountingRequest_iff.mpr (by decide))

end Records

end TacacsRs.Tacon
