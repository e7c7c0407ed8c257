import ScrapeCourier.Number.Unsigned

namespace ScrapeCourier

structure Counts where
  inflight : Int := 0
  pollErrors : Nat := 0
  pushErrors : Nat := 0
  scrapeErrors : Nat := 0
  deriving DecidableEq, Repr

inductive Tally
  | pollError
  | pushError
  | scrapeError
  | jobStarted
  | jobFinished
  deriving DecidableEq, Repr

structure Series where
  name : String
  help : String
  kind : String
  value : Int

def Series.text (s : Series) : String :=
  "# HELP " ++ s.name ++ " " ++ s.help ++ "\n# TYPE " ++ s.name ++ " " ++ s.kind ++ "\n" ++
    s.name ++ " " ++ (if s.value < 0 then "-" else "") ++
    String.ofList (Unsigned.text s.value.natAbs) ++ "\n"

namespace Counts

def record (c : Counts) : Tally → Counts
  | .pollError => { c with pollErrors := c.pollErrors + 1 }
  | .pushError => { c with pushErrors := c.pushErrors + 1 }
  | .scrapeError => { c with scrapeErrors := c.scrapeErrors + 1 }
  | .jobStarted => { c with inflight := c.inflight + 1 }
  | .jobFinished => { c with inflight := c.inflight - 1 }

def series (c : Counts) : List Series :=
  [⟨"scrape_relay_agent_inflight_jobs",
      "Jobs claimed from the relay whose result has not been pushed yet", "gauge", c.inflight⟩,
    ⟨"scrape_relay_agent_poll_errors_total", "Number of poll errors", "counter", c.pollErrors⟩,
    ⟨"scrape_relay_agent_push_errors_total", "Number of push errors", "counter", c.pushErrors⟩,
    ⟨"scrape_relay_agent_scrape_errors_total", "Number of scrape errors", "counter",
      c.scrapeErrors⟩]

def text (c : Counts) : String := String.join (c.series.map Series.text)

end Counts

end ScrapeCourier
