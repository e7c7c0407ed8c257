import ScrapeCourier.Time.Duration

namespace ScrapeCourier

structure Backoff where
  initial : Duration
  longest : Duration
  current : Duration

namespace Backoff

def start (initial longest : Duration) : Backoff := ⟨initial, longest, initial.min longest⟩

/-- The wait that follows a wait, by its seconds to 53 bits. -/
def grow (longest d : Duration) : Duration :=
  ((Duration.ofRat? (Rounding.significant (d.seconds * (3 / 2)))).getD longest).min longest

def next (b : Backoff) : Duration × Backoff :=
  (b.current, { b with current := grow b.longest b.current })

def reset (b : Backoff) : Backoff := start b.initial b.longest

end Backoff

end ScrapeCourier
