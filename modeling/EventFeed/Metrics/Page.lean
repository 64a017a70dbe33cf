import EventFeed.Decimal.Shortest
import EventFeed.Metrics.Registry
import EventFeed.Metrics.Series

/-!
# The page of metrics

The text that a scraper reads: for every name a line that says what it is, where that is known, a line
with its kind, and a line for every value.
-/

namespace EventFeed.Metrics

/-- Whether a character may stand in a name, at its start or further in. -/
def isSeriesChar (first : Bool) (c : Char) : Bool :=
  c.isAlpha || c = '_' || c = ':' || (!first && c.isDigit)

/-- A name with underscores for the characters that names do not have. -/
def seriesText (name : String) : String :=
  match name.toList with
  | [] => ""
  | c :: rest =>
      String.ofList ((if isSeriesChar true c then c else '_') ::
        rest.map fun c => if isSeriesChar false c then c else '_')

def routeChar (c : Char) : List Char :=
  if c = '\n' then ['\\', 'n']
  else if c = '"' then ['\\', '"']
  else if c = '\\' then ['\\', '\\']
  else [c]

def keyText (key : CounterKey) : String :=
  match key.route with
  | none => seriesText key.name
  | some route =>
      seriesText key.name ++ "\x7broute=\"" ++ String.ofList (route.toList.flatMap routeChar) ++ "\"\x7d"

def heading (kind name : String) : List String :=
  let shown := seriesText name
  let help := match Series.description? name with
    | some text => ["# HELP " ++ shown ++ " " ++ text]
    | none => []
  help ++ ["# TYPE " ++ shown ++ " " ++ kind]

def counterTexts (metrics : Metrics) : List (String × String) :=
  metrics.counters.map fun (key, count) => (keyText key, toString count.toNat)

def gaugeTexts (metrics : Metrics) : List (String × String) :=
  metrics.gauges.map fun (name, value) => (seriesText name, Decimal.plain value)

def page (metrics : Metrics) : List String :=
  let counters := (metrics.counters.map fun (key, _) => key.name).eraseDups
  let gauges := metrics.gauges.map Prod.fst
  counters.flatMap (heading "counter") ++ gauges.flatMap (heading "gauge") ++
    (metrics.counterTexts ++ metrics.gaugeTexts).map fun (name, value) => name ++ " " ++ value

/-- The path under which the page is served; every other path is unknown. -/
def pagePath : String := "/metrics"

def serve (metrics : Metrics) (path : String) : Nat × String :=
  if path = pagePath then (200, String.join (metrics.page.map (· ++ "\n"))) else (404, "")

end EventFeed.Metrics
