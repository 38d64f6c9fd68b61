import Assay.IoError
import Assay.Text.Utf8

/-!
# Sinks

A report is written to a sink, and a sink may fail: it may have room for a number of bytes only, and
one of its flushes may be refused. A write that does not fit is accepted in part, as far as there is
room, so the bytes a sink holds are always a beginning of what it was given.

`print` writes a text in pieces, one after the other, and flushes once when all of them are written.
It stops at the first failure and does not flush then.
-/

namespace Assay

/-- Where a report is written. -/
structure Sink where
  /-- The bytes accepted so far. -/
  written : Bytes
  /-- How many bytes there is room for in all, if there is a bound. -/
  limit : Option Nat
  /-- How often the sink was flushed. -/
  flushes : Nat
  /-- Which flush is refused, counted from 1. -/
  refusedFlush : Option Nat
deriving DecidableEq, Repr

namespace Sink

/-- A sink with nothing written, and its limits. -/
def empty (limit refusedFlush : Option Nat) : Sink := ⟨[], limit, 0, refusedFlush⟩

/-- A sink that never fails. -/
def unlimited : Sink := empty none none

/-- The error of a sink that has no room. -/
def full : IoError := .custom .brokenPipe "sink full"

/-- The error of a refused flush. -/
def refused : IoError := .custom .other "flush refused"

/-- Writes bytes, as many as there is room for. -/
def write (bs : Bytes) (s : Sink) : Except IoError Unit × Sink :=
  match s.limit with
  | none => (.ok (), { s with written := s.written ++ bs })
  | some limit =>
    let room := limit - s.written.length
    if bs.length ≤ room then (.ok (), { s with written := s.written ++ bs })
    else (.error full, { s with written := s.written ++ bs.take room })

/-- Flushes the sink. -/
def flush (s : Sink) : Except IoError Unit × Sink :=
  let s := { s with flushes := s.flushes + 1 }
  if s.refusedFlush = some s.flushes then (.error refused, s) else (.ok (), s)

/-- Writes a text in pieces, then flushes. -/
def print : List String → Sink → Except IoError Unit × Sink
  | [], s => s.flush
  | piece :: pieces, s =>
    match s.write (Text.Utf8.encode piece.toList) with
    | (.ok (), s) => print pieces s
    | (.error e, s) => (.error e, s)

end Sink

end Assay
