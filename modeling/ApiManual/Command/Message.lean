import ApiManual.Command.Basic
import ApiManual.Report

/-!
# What commands say

The texts that commands write while they run. Marks at the start of a line tell what sort of message it
is: an arrow for something that begins, a tick for something done, a cross for something that failed, an
exclamation mark for what the reader should look at.
-/

namespace ApiManual.Message

/-- One, or a number of them. -/
def plural (count : Nat) (noun : String) : String :=
  toString count ++ " " ++ noun ++ if count = 1 then "" else "s"

def lines (texts : List String) : String := String.join (texts.map (· ++ "\n"))

def created (path : String) : String :=
  lines ["✓ Created " ++ path, "", "Next steps:", "  1. Adjust include to your project",
    "  2. Run apiscribe build <src> to generate documentation",
    "  3. Run apiscribe serve <src> to start the mock server"]

def settingsExist : String :=
  lines ["✗ Config file already exists. Use --force to overwrite."]

def building (folder : String) : String :=
  lines ["→ Building documentation from " ++ folder ++ "..."]

def noSources (included : List String) : String :=
  lines ("✗ No files found matching include patterns" :: included.map ("    include: " ++ ·))

def warningLine (warning : Warning) : String :=
  "  " ++ warning.file ++ ":" ++ toString warning.line ++ " [" ++ warning.complaint.kind.name ++ "] "
    ++ warning.complaint.message

def warnings (report : Report) : String :=
  if report.warnings.isEmpty then ""
  else
    lines (("! " ++ plural report.warnings.length "warning" ++ ":")
      :: report.warnings.map warningLine)

def published (format : Format) (folder : String) (count : Nat) : String :=
  lines ["✓ " ++ format.name ++ " output written to " ++ folder ++ " (" ++ toString count
    ++ " files)"]

def documentedCount (manual : Manual) : Nat := (Registry.documented manual.registry).length

def withoutExchanges (report : Report) : String :=
  let endpoints := report.withoutExchanges
  if endpoints.isEmpty then ""
  else
    lines ("" :: ("! " ++ plural endpoints.length "resource" ++ " without examples:")
      :: endpoints.map ("    " ++ ·.describe))

def repeatedParams (report : Report) : String :=
  let repeated := report.repeatedParams
  if repeated.isEmpty then ""
  else
    lines ("" :: "! Duplicate parameter names:" :: repeated.map fun (endpoint, names) =>
      "    " ++ endpoint.describe ++ ": " ++ String.intercalate ", " names)

/-- How many of everything there are, and what is missing. -/
def summary (report : Report) : String :=
  lines ["  Files: " ++ toString report.files.length,
      "  Resources: " ++ toString (documentedCount report.manual),
      "  Documents: " ++ toString report.manual.articles.length]
    ++ withoutExchanges report ++ repeatedParams report

def noWarnings (report : Report) : String :=
  lines ["✓ " ++ toString report.files.length ++ " files, "
    ++ toString (documentedCount report.manual) ++ " resources, no warnings"]

def checkFailed (folder : String) : String :=
  lines ["✗ Annotation check failed in " ++ folder]

def exchangeCount (manual : Manual) : Nat :=
  (Registry.documented manual.registry).foldl
    (fun count endpoint => count + endpoint.exchanges.length) 0

def serving (manual : Manual) (address : String) : String :=
  lines (("→ Serving " ++ toString (documentedCount manual) ++ " resources ("
      ++ toString (exchangeCount manual) ++ " examples) on http://" ++ address)
    :: if exchangeCount manual = 0 then ["! No recorded examples: every request will get 404"]
      else [])

def failed (failure : Failure) : String := lines ["Error: " ++ failure.message]

def version : String := lines ["apiscribe 0.1.0"]

def usage : String :=
  lines ["Usage: apiscribe [-c FILE] [-v] COMMAND", "",
    "  init [-f]", "    Write a default config file",
    "  build [SOURCE] [-t TITLE] [-o DIR] [-b URI] [-g GENERATOR] [--examples DIR]",
    "    Generate documentation from annotated sources",
    "  check [SOURCE]", "    Report annotation warnings without writing output",
    "  serve [SOURCE | --from FILE] [--host HOST] [-p PORT]",
    "    Serve recorded examples as a mock API"]

end ApiManual.Message
