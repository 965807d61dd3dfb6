import Ticker.Market

namespace Ticker

inductive Rejection where
  | emptyInput
  | invalidFormat (market : Market)
  | unknownLead (lead : String)
  | emptyTicker
  | invalidLength (digits : Nat)
  | unrecognizedFormat
  | unknownMarket (name : String)
  | unknownLanguage (name : String)
  deriving DecidableEq

def Market.formatRule : Market → Language → String
  | .aShare, .english => "must be 6 digits"
  | .aShare, .chinese => "应为6位数字"
  | .unitedStates, .english => "must be 1-5 letters, optionally followed by .X"
  | .unitedStates, .chinese => "应为1-5个字母，可带 .X 分类后缀"
  | .hongKong, .english => "must be 1-5 digits"
  | .hongKong, .chinese => "应为1-5位数字"
  | .malaysia, .english => "must be 4 digits, optionally followed by .KL"
  | .malaysia, .chinese => "应为4位数字，可带 .KL 后缀"

namespace Rejection

def tag : Rejection → String
  | .emptyInput => "EMPTY_INPUT"
  | .invalidFormat _ => "INVALID_FORMAT"
  | .unknownLead _ => "UNKNOWN_PREFIX"
  | .emptyTicker => "EMPTY_TICKER"
  | .invalidLength _ => "INVALID_LENGTH"
  | .unrecognizedFormat => "UNRECOGNIZED_FORMAT"
  | .unknownMarket _ => "UNKNOWN_MARKET"
  | .unknownLanguage _ => "UNKNOWN_LANGUAGE"

def english : Rejection → String
  | .emptyInput => "please enter a stock code"
  | .invalidFormat m => m.label .english ++ " code format is invalid: " ++ m.formatRule .english
  | .unknownLead lead => "A-share code prefix '" ++ lead ++ "' is not recognized"
  | .emptyTicker => "US stock code cannot be empty"
  | .invalidLength digits =>
    "digit code length " ++ toString digits ++ " is not valid for any known market"
  | .unrecognizedFormat => "unrecognized stock code format"
  | .unknownMarket name => "invalid market '" ++ name ++ "', expected one of CN, US, HK, MY"
  | .unknownLanguage name => "invalid language '" ++ name ++ "', expected zh or en"

def chinese : Rejection → String
  | .emptyInput => "请输入股票代码"
  | .invalidFormat m => m.label .chinese ++ "代码格式错误：" ++ m.formatRule .chinese
  | .unknownLead lead => "A股代码前缀 " ++ lead ++ " 无法识别"
  | .emptyTicker => "美股代码不能为空"
  | .invalidLength digits => "数字代码长度 " ++ toString digits ++ " 不符合任何已知市场"
  | .unrecognizedFormat => "无法识别的股票代码格式"
  | .unknownMarket name => "无效的市场 '" ++ name ++ "'，可选值为 CN、US、HK、MY"
  | .unknownLanguage name => "无效的语言 '" ++ name ++ "'，可选值为 zh 或 en"

def message (r : Rejection) : Language → String
  | .chinese => r.chinese
  | .english => r.english

end Rejection

end Ticker
