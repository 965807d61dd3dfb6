import Ticker.Name

namespace Ticker.Market

def help : Market → Language → String
  | .aShare, .chinese =>
    "A股代码为6位数字，如 600519（贵州茅台）、000001（平安银行）、300750（宁德时代）"
  | .aShare, .english =>
    "A-share codes are 6 digits, e.g. 600519 (Kweichow Moutai), 000001 (Ping An Bank), " ++
      "300750 (CATL)"
  | .unitedStates, .chinese =>
    "美股代码为1-5个字母，如 AAPL（苹果）、TSLA（特斯拉），分类股如 BRK.B"
  | .unitedStates, .english =>
    "US tickers are 1-5 letters, e.g. AAPL (Apple), TSLA (Tesla); share classes like BRK.B"
  | .hongKong, .chinese =>
    "港股代码为1-5位数字，自动补齐为5位，如 00700（腾讯控股）、09988（阿里巴巴）"
  | .hongKong, .english =>
    "Hong Kong codes are 1-5 digits, zero-padded to 5, e.g. 00700 (Tencent), 09988 (Alibaba)"
  | .malaysia, .chinese =>
    "马股代码为4位数字，可带 .KL 后缀，如 1155.KL（马来亚银行）、5347.KL（国家能源）"
  | .malaysia, .english =>
    "Malaysia codes are 4 digits with optional .KL suffix, e.g. 1155.KL (Maybank), " ++
      "5347.KL (Tenaga Nasional)"

def examples : Market → List String
  | .aShare => ["600519", "000001", "300750", "688981"]
  | .unitedStates => ["AAPL", "TSLA", "MSFT", "BRK.B"]
  | .hongKong => ["00700", "09988", "03690", "01810"]
  | .malaysia => ["1155.KL", "5347.KL", "1295.KL", "6888.KL"]

def helpFor (name : String) (l : Language) : String :=
  match ofName name with
  | .ok m => m.help l
  | .error _ => ""

def examplesFor (name : String) : List String :=
  match ofName name with
  | .ok m => m.examples
  | .error _ => []

end Ticker.Market
