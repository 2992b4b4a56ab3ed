/-!
# Help texts

What the two programs print about themselves, line by line.
-/

namespace Chip8.CommandLine

/-- How a program introduces itself. -/
structure Manual where
  name : String
  usage : String
  /-- The help text in full. -/
  full : List String
  /-- The help text in short. -/
  summary : List String

def Manual.version (m : Manual) : String := m.name ++ " 0.1.0"

def emulatorManual : Manual where
  name := "chipterm"
  usage := "Usage: chipterm [OPTIONS] <ROM>"
  full := [
    "Run a CHIP-8 program in the terminal",
    "",
    "Usage: chipterm [OPTIONS] <ROM>",
    "",
    "Arguments:",
    "  <ROM>",
    "          Program image, loaded at 0x200",
    "",
    "Options:",
    "      --debug",
    "          Execute one instruction per ENTER instead of running the clock",
    "",
    "      --ips <IPS>",
    "          Instruction clock rate",
    "          ",
    "          [default: 500]",
    "",
    "      --fps <FPS>",
    "          Display refresh rate",
    "          ",
    "          [default: 60]",
    "",
    "      --font <PATH>",
    "          Text file with the 80 font bytes, one per line",
    "",
    "      --keymap <KEYMAP>",
    "          Possible values:",
    "          - literal: hex digits map to themselves",
    "          - qwerty:  1234/qwer/asdf/zxcv block",
    "          ",
    "          [default: literal]",
    "",
    "      --log-file <PATH>",
    "          Write log output here; the terminal belongs to the UI",
    "",
    "  -h, --help",
    "          Print help (see a summary with '-h')",
    "",
    "  -V, --version",
    "          Print version"]
  summary := [
    "Run a CHIP-8 program in the terminal",
    "",
    "Usage: chipterm [OPTIONS] <ROM>",
    "",
    "Arguments:",
    "  <ROM>  Program image, loaded at 0x200",
    "",
    "Options:",
    "      --debug            Execute one instruction per ENTER instead of running the clock",
    "      --ips <IPS>        Instruction clock rate [default: 500]",
    "      --fps <FPS>        Display refresh rate [default: 60]",
    "      --font <PATH>      Text file with the 80 font bytes, one per line",
    "      --keymap <KEYMAP>  [default: literal] [possible values: literal, qwerty]",
    "      --log-file <PATH>  Write log output here; the terminal belongs to the UI",
    "  -h, --help             Print help (see more with '--help')",
    "  -V, --version          Print version"]

private def disassemblerHelp : List String := [
  "Disassemble a CHIP-8 program",
  "",
  "Usage: chipterm-disasm <FILE>",
  "",
  "Arguments:",
  "  <FILE>  Program image to list",
  "",
  "Options:",
  "  -h, --help     Print help",
  "  -V, --version  Print version"]

def disassemblerManual : Manual where
  name := "chipterm-disasm"
  usage := "Usage: chipterm-disasm <FILE>"
  full := disassemblerHelp
  summary := disassemblerHelp

end Chip8.CommandLine
