import BootstrapVoucher.Proofs.SignedFolder

/-!
# Files that the tool changes

The tool changes files in one way only: a command that signs, and succeeds, writes its voucher to one
file. Commands that verify a voucher or check a folder leave the files alone, and so does whatever
fails. In a sequence of runs, where each sees what those before it have written, a place therefore holds
what it held at the beginning, or the voucher of one of the runs.
-/

namespace BootstrapVoucher.Proofs

open FileTree Time Tool

variable {Cert Key Envelope : Type} [DecidableEq Cert]

/-- When the tool is run, and with which arguments. -/
structure Call where
  now : Instant
  arguments : List String

def Call.run (P : Provider Cert Key Envelope) (call : Call) (tree : FileTree) : Report × FileTree :=
  Tool.run P call.now call.arguments tree

section Commands

variable {P : Provider Cert Key Envelope} {now : Instant}

end Commands

/-! ### One run -/

section Runs

variable {P : Provider Cert Key Envelope} {tree : FileTree} {call : Call}

end Runs

/-! ### Any number of runs -/

end BootstrapVoucher.Proofs
