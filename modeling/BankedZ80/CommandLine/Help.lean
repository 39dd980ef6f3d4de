/-!
# Help

The text that the command line prints when it is asked for help: what the program does, how it is
called, and a line for every argument and option.
-/

namespace BankedZ80

/-- A line of the help: how something is written, and what it is for. -/
structure HelpEntry where
  usage : String
  purpose : String
deriving DecidableEq, Repr

namespace HelpEntry

/-- The entry indented, with its purpose in a column of its own. -/
def line (width : Nat) (entry : HelpEntry) : String :=
  "  " ++ entry.usage ++ String.ofList (List.replicate (width - entry.usage.length) ' ')
    ++ "  " ++ entry.purpose ++ "\n"

/-- Entries below each other, their purposes aligned. -/
def table (entries : List HelpEntry) : String :=
  let width := (entries.map (·.usage.length)).foldl max 0
  String.join (entries.map (line width))

end HelpEntry

/-- The positional arguments. -/
def helpArguments : List HelpEntry :=
  [⟨"[BUNDLE]", "Machine bundle (ZIP with bundle.json, ROM and disks)"⟩]

/-- The options. -/
def helpOptions : List HelpEntry := [
  ⟨"    --rom <FILE>", "ROM image (replaces the bundle's ROM)"⟩,
  ⟨"    --disk <[UNIT=]FILE>", "Disk image, optionally prefixed with its unit number"⟩,
  ⟨"    --boot <SETTING>",
    "NVRAM boot setting (\"H\" menu, ROM letter, \"UNIT\" or \"UNIT.SLICE\")"⟩,
  ⟨"    --config <FILE>", "Engine config JSON"⟩,
  ⟨"    --imports <DIR>", "Directory the guest reads host files from [default: .]"⟩,
  ⟨"    --exports <DIR>", "Directory guest writes are stored in [default: .]"⟩,
  ⟨"    --state <FILE>", "Session state file (NVRAM setting, silenced warnings)"⟩,
  ⟨"    --save-disks", "Write modified --disk images back on exit"⟩,
  ⟨"    --quiet-writes", "Stop warning about writes to bundle disks"⟩,
  ⟨"-t, --trace", "Enable debug logging (HBIOS calls, device commands)"⟩,
  ⟨"-h, --help", "Print help"⟩]

/-- How the program is called. -/
def usageLine : String := "Usage: romwbw [OPTIONS] [BUNDLE]\n"

/-- The whole help. -/
def helpText : String :=
  "Run a RomWBW HBIOS machine in the terminal\n\n" ++ usageLine
    ++ "\nArguments:\n" ++ HelpEntry.table helpArguments
    ++ "\nOptions:\n" ++ HelpEntry.table helpOptions

end BankedZ80
