import Ticker.CommandLine.Batch
import Ticker.CommandLine.Request
import Ticker.Guide

namespace Ticker.CommandLine

structure Response where
  payload : Json
  lines : List String
  rejected : Nat := 0

namespace Response

def ofBatch (l : Language) (hint : Option Market) (entries : List Entry) : Response where
  payload := .record
    [("hint", .orNull (hint.map (.text ·.code))),
      ("rejected", .number (rejectedCount entries)),
      ("results", .list (entries.map (·.payload l)))]
  lines := entries.map (·.line l)
  rejected := rejectedCount entries

def ofFormatted (m : Market) (code : String) : Response where
  payload := .record
    [("input", .text code), ("market", .text m.code), ("formatted", .text (m.format code))]
  lines := [m.format code]

def ofDescription (l : Language) (m : Market) : Response where
  payload := .record
    (m.fields ++ [("help", .text (m.help l)), ("examples", .texts m.examples)])
  lines :=
    ["market   : " ++ m.code ++ " (" ++ m.label l ++ ")",
      "currency : " ++ m.profile.currency,
      "timezone : " ++ m.profile.timezone,
      "exchanges: " ++ String.intercalate "," m.profile.exchanges,
      "help     : " ++ m.help l,
      "examples : " ++ String.intercalate ", " m.examples]

def ofMarkets (l : Language) (ms : List Market) : Response where
  payload := .record [("markets", .list (ms.map (.record ·.fields)))]
  lines := ms.map fun m =>
    column 3 m.code ++ " " ++ column 16 (m.label l) ++ " " ++ m.profile.currency ++ " " ++
      m.profile.timezone

end Response

def Command.respond (l : Language) : Command → Response
  | .validate codes hint => .ofBatch l hint (batch hint codes)
  | .format code m => .ofFormatted m code
  | .describe m => .ofDescription l m
  | .markets => .ofMarkets l Market.all

end Ticker.CommandLine
