import TextSearch.CommandLine.Arguments
import TextSearch.Service.Worker

/-!
# The commands

`serve` carries out requests, `search`, `suggest` and `stats` load a file of documents and answer
one question about it.
-/

namespace TextSearch
namespace CommandLine

/-- The settings of `serve`. -/
structure ServeSettings where
  /-- Documents to begin with. -/
  preload : Option String
  progressInterval : Nat

/-- The settings of `search`. -/
structure SearchSettings where
  documents : String
  query : String
  limit : Nat
  offset : Nat
  sortKey : SortKey
  ascending : Bool
  noHighlight : Bool
  fragmentSize : Nat
  maxFragments : Nat
  kinds : List Kind
  tags : List String
  authors : List String
  paths : List String
  json : Bool

/-- The settings of `suggest`. -/
structure SuggestSettings where
  documents : String
  beginning : String
  limit : Nat

/-- The settings of `stats`. -/
structure StatsSettings where
  documents : String
  json : Bool

/-- A command with its settings. -/
inductive Command where
  | serve (settings : ServeSettings)
  | search (settings : SearchSettings)
  | suggest (settings : SuggestSettings)
  | stats (settings : StatsSettings)

/-- The file of documents that a command loads. -/
def Command.documents? : Command → Option String
  | serve settings => settings.preload
  | search settings => some settings.documents
  | suggest settings => some settings.documents
  | stats settings => some settings.documents

/-- The options of the search that a command asks for. -/
def SearchSettings.options (settings : SearchSettings) : Options :=
  { Options.standard with
    limit := settings.limit
    offset := settings.offset
    sortKey := settings.sortKey
    direction := if settings.ascending then .ascending else .descending
    highlight := !settings.noHighlight
    fragmentSize := settings.fragmentSize
    maxFragments := settings.maxFragments
    filters :=
      { kinds := .ofList settings.kinds
        created := none
        tags := settings.tags
        authors := settings.authors
        paths := settings.paths } }

/-! ## Usages -/

/-- The sort keys that can be asked for, by their names here. -/
def sortKeys : List (String × SortKey) :=
  [("score", .score), ("title", .title), ("created", .created), ("updated", .updated)]

/-- The usage of `serve`. -/
def serveUsage : Usage ServeSettings where
  switches := [
    ⟨"preload", none, .value false fun text settings =>
      (path? text).map fun path => { settings with preload := some path }⟩,
    ⟨"progress-interval", none, .value false fun text settings =>
      (count? text).map fun progressInterval => { settings with progressInterval }⟩]
  places := []

/-- The usage of `search`. -/
def searchUsage : Usage SearchSettings where
  switches := [
    ⟨"limit", some 'l', .value false fun text settings =>
      (count? text).map fun limit => { settings with limit }⟩,
    ⟨"offset", none, .value false fun text settings =>
      (count? text).map fun offset => { settings with offset }⟩,
    ⟨"sort-by", none, .value false fun text settings =>
      (sortKeys.lookup text).map fun sortKey => { settings with sortKey }⟩,
    ⟨"asc", none, .flag fun settings => { settings with ascending := true }⟩,
    ⟨"no-highlight", none, .flag fun settings => { settings with noHighlight := true }⟩,
    ⟨"fragment-size", none, .value false fun text settings =>
      (count? text).map fun fragmentSize => { settings with fragmentSize }⟩,
    ⟨"max-fragments", none, .value false fun text settings =>
      (count? text).map fun maxFragments => { settings with maxFragments }⟩,
    ⟨"kind", none, .value true fun text settings =>
      (Kind.ofName? text).map fun kind => { settings with kinds := settings.kinds ++ [kind] }⟩,
    ⟨"tag", none, .value true fun text settings =>
      some { settings with tags := settings.tags ++ [text] }⟩,
    ⟨"author", none, .value true fun text settings =>
      some { settings with authors := settings.authors ++ [text] }⟩,
    ⟨"path", none, .value true fun text settings =>
      some { settings with paths := settings.paths ++ [text] }⟩,
    ⟨"json", none, .flag fun settings => { settings with json := true }⟩]
  places := [
    fun text settings => (path? text).map fun documents => { settings with documents },
    fun text settings => some { settings with query := text }]

/-- The usage of `suggest`. -/
def suggestUsage : Usage SuggestSettings where
  switches := [
    ⟨"limit", some 'l', .value false fun text settings =>
      (count? text).map fun limit => { settings with limit }⟩]
  places := [
    fun text settings => (path? text).map fun documents => { settings with documents },
    fun text settings => some { settings with beginning := text }]

/-- The usage of `stats`. -/
def statsUsage : Usage StatsSettings where
  switches := [⟨"json", none, .flag fun settings => { settings with json := true }⟩]
  places := [fun text settings => (path? text).map fun documents => { settings with documents }]

/-- The settings of a search that is told nothing. -/
def standardSearch : SearchSettings where
  documents := ""
  query := ""
  limit := Options.standard.limit
  offset := 0
  sortKey := .score
  ascending := false
  noHighlight := false
  fragmentSize := Options.standard.fragmentSize
  maxFragments := Options.standard.maxFragments
  kinds := []
  tags := []
  authors := []
  paths := []
  json := false

/-! ## Invocations -/

/-- What the arguments of the program ask for. -/
inductive Invocation where
  | run (command : Command)
  | help
  | version
  | misuse

/-- The settings of a command, made into an invocation. -/
def Understood.invocation {σ : Type} (command : σ → Command) : Understood σ → Invocation
  | .settings found => .run (command found)
  | .help => .help
  | .misuse => .misuse

/-- The names of the commands. -/
def commandNames : List String :=
  ["serve", "search", "suggest", "stats", "help"]

/-- What the arguments of the program ask for. -/
def Invocation.ofArguments : List String → Invocation
  | "serve" :: args =>
    (serveUsage.understand ⟨none, standardProgressInterval⟩ args).invocation .serve
  | "search" :: args => (searchUsage.understand standardSearch args).invocation .search
  | "suggest" :: args =>
    (suggestUsage.understand ⟨"", "", Index.standardSuggestionLimit⟩ args).invocation .suggest
  | "stats" :: args => (statsUsage.understand ⟨"", false⟩ args).invocation .stats
  | ["help"] => .help
  | ["help", name] => if commandNames.contains name then .help else .misuse
  | "--help" :: _ => .help
  | "--version" :: _ => .version
  | arg :: _ =>
    match arg.toList with
    | '-' :: 'h' :: _ => .help
    | '-' :: 'V' :: _ => .version
    | _ => .misuse
  | [] => .misuse

end CommandLine
end TextSearch
