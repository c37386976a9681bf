import HttpJournal.Time.ZoneRow

namespace HttpJournal.ZoneTable

def asiaA : List ZoneRow := [
  ⟨"Asia/Almaty", [18468, 18000, 21600, 25200],
    "B1svy1r0C37a0d0Dqi27w0C9et80D9d440C9et80D9d440C9et80D9eys0C9d6w0D9d1c0C9d1c0D9d1c0C9d1c0D9d" ++
      "1c0C9d1c0D9d1c0C9d1c0D9d1c0C9d1c0D9d1c0C9q000Biq5g0C5reo0D3ljw0C9d1c0D9d1c0C9d1c0D9d1c0C9" ++
      "d1c0D9d1c0C9d1c0D9q000Casw00D7x6o0Casw00D7x6o0Casw00D7x6o0Cb5uo0D7k800Cb5uo0D7k800Cb5uo0D" ++
      "7x6o0Casw00D7x6o0Casw00D7x6o0Cb5uo0Ba37rs0", none⟩,
  ⟨"Asia/Amman", [8624, 7200, 10800],
    "B1wd7iogCm566fkB60l80Cawo40B7v980Cawo40B7v980Cayis0B9gnw0C9b9g0B7v980Cautg0B7v980C3e6840B9e" ++
      "t80C9io40B9cyk0C9d440B9cyk0C9d440B9px80Cayis0B7rjw0Cag040B8a2k0C9zc40B8drw0Ca31g0B8zzw0C9" ++
      "d440B9cyk0C9d440B8n180Cag040B8a5c0Cafxc0B8n400Ca2yo0B8n400Ca2yo0B8n400Cepmo0B4deo0C9o5c0B" ++
      "9ew00C9b6o0B9ew00C9d1c0B9d1c0C9d1c0Basw00C7x6o0Bafxc0C8n400B9d1c0C9d1c0Basw00C7x6o0Basw00" ++
      "C7x6o0Bb5uo0C7k800Bb5uo0C7k800Bb5uo0C7x6o0Basw00C7x6o0Bwel80C51k40Bb5uo0C7k800Bb5uo0C7x6o" ++
      "0Basw00C7x6o0Basw00C7x6o0Basw00C7x6o0Basw00C7x6o0Bb5uo0C7k800Bb5uo0C64dc0", none⟩,
  ⟨"Asia/Anadyr", [42596, 43200, 46800, 50400, 39600],
    "B1svxj4sC379zj8Dqi27w0C9et80Bis040C9d440B9et80C9eys0B9d6w0C9d1c0B9d1c0C9d1c0B9d1c0C9d1c0B9d" ++
      "1c0C9d1c0B9d1c0C9d1c0B9d1c0C9d1c0B9q000Eiq5g0B5reo0C3ljw0B9d1c0C9d1c0B9d1c0C9d1c0B9d1c0C9" ++
      "d1c0B9d1c0C9q000Basw00C7x6o0Basw00C7x6o0Basw00C7x6o0Bb5uo0C7k800Bb5uo0C7k800Bb5uo0C7x6o0B" ++
      "asw00C7x6o0Basw00C7x6o0Bb5uo0C7k800Bb5uo0C7k800Bb5uo0C7k800Bb5uo0C7x6o0Basw00C7x6o0Basw00" ++
      "Ej3440B7k800", none⟩,
  ⟨"Asia/Aqtau", [12064, 14400, 18000, 21600],
    "B1svy6owC379y74Dqrh3w0Ciruk0D9d440C9et80D9eys0C9d6w0D9d1c0C9d1c0D9d1c0C9d1c0D9d1c0C9d1c0D9d" ++
      "1c0C9d1c0D9d1c0C9d1c0D9d1c0C9q000Biq5g0C5reo0D3ljw0C9d1c0D9d1c0C9d1c0D9d1c0B9d1c0C9d440B9" ++
      "d1c0C9q000Basw00C7x6o0Basw00C7x6o0Basw00C7x6o0Bb5uo0C7k800Bb5uo0C7k800Bb5uo0C7x6o0Basw00C" ++
      "7x6o0Basw00C7x6o0", none⟩,
  ⟨"Asia/Aqtobe", [13720, 14400, 18000, 21600],
    "B1svy5ewC379zh4Dqi27w0Cs6qk0D9d440C9et80D9eys0C9d6w0D9d1c0C9d1c0D9d1c0C9d1c0D9d1c0C9d1c0D9d" ++
      "1c0C9d1c0D9d1c0C9d1c0D9d1c0C9q000Biq5g0C5reo0D3ljw0C9d1c0D9d1c0C9d1c0D9d1c0C9d1c0D9d1c0C9" ++
      "d1c0D9q000Casw00D7x6o0Casw00D7x6o0Casw00D7x6o0Cb5uo0D7k800Cb5uo0D7k800Cb5uo0D7x6o0Casw00D" ++
      "7x6o0Casw00D7x6o0Cb5uo0", none⟩,
  ⟨"Asia/Ashgabat", [14012, 14400, 18000, 21600],
    "B1svy56sC379zp8Dqi27w0C9et80D9d440C9et80D9d440C9et80D9eys0C9d6w0D9d1c0C9d1c0D9d1c0C9d1c0D9d" ++
      "1c0C9d1c0D9d1c0C9d1c0D9d1c0C9d1c0D9d1c0C9q000Biq5g0C5reo0", none⟩,
  ⟨"Asia/Atyrau", [12464, 10800, 18000, 21600, 14400],
    "B1svy6dsC37a1a8Dqrh140Ciruk0D9d440C9et80D9eys0C9d6w0D9d1c0C9d1c0D9d1c0C9d1c0D9d1c0C9d1c0D9d" ++
      "1c0C9d1c0D9d1c0C9d1c0D9d1c0C9q000Eiq5g0C5reo0D3ljw0C9d1c0D9d1c0C9d1c0D9d1c0C9d1c0D9d1c0C9" ++
      "d1c0D9q000Casw00D7x6o0Casw00D7x6o0Casw00Ej3440C7k800Eb5uo0C7k800Eb5uo0C7x6o0Easw00C7x6o0E" ++
      "asw00C7x6o0", none⟩,
  ⟨"Asia/Baghdad", [10660, 10656, 10800, 14400],
    "B1ayxufwCem11c4Dxkn3w0C7v980D9b9g0C9gnw0D9eys0C9et80D9d440C9b9g0D9d1c0C9d1c0D9d1c0C9d1c0D9d" ++
      "1c0C9d1c0D9d1c0C9d1c0D9d1c0C9q000D9f1k0C9ew00D9ew00C9ew00D9d1c0C9ew00D9d1c0C9ew00D9d1c0C9" ++
      "ew00D9ew00C9ew00D9d1c0C9ew00D9d1c0C9ew00D9d1c0C9ew00D9ew00C9ew00D9d1c0C9ew00D9d1c0C9ew00D" ++
      "9d1c0C9ew00D9ew00C9ew00D9d1c0C9ew00D9d1c0C9ew00D9d1c0C9ew00", none⟩,
  ⟨"Asia/Baku", [11964, 10800, 14400, 18000],
    "B1svy6roCh4tkwcDckinw0C9et80D9d440C9et80D9d440C9et80D9eys0C9d6w0D9d1c0C9d1c0D9d1c0C9d1c0D9d" ++
      "1c0C9d1c0D9d1c0C9d1c0D9d1c0C9d1c0D9d1c0C9q000Biq5g0C9d1c0D239ew0Casw00D7x3w0Casw00D7x6o0C" ++
      "asw00D7x6o0Cb5uo0D7k800Cb5uo0D7k800Cb5uo0D7x6o0Casw00D7x6o0Casw00D7x6o0Cb5uo0D7k800Cb5uo0" ++
      "D7k800Cb5uo0D7k800Cb5uo0D7x6o0Casw00D7x6o0Casw00D7x6o0Cb5uo0D7k800Cb5uo0D7k800Cb5uo0D7x6o" ++
      "0Casw00D7x6o0Casw00D7x6o0Casw00", none⟩,
  ⟨"Asia/Bangkok", [24124, 25200], "B1qr6ypw", none⟩,
  ⟨"Asia/Barnaul", [20100, 21600, 25200, 28800],
    "B1qldshoC5hu6ucDqi27w0C9et80D9d440C9et80D9d440C9et80D9eys0C9d6w0D9d1c0C9d1c0D9d1c0C9d1c0D9d" ++
      "1c0C9d1c0D9d1c0C9d1c0D9d1c0C9d1c0D9d1c0C9q000Biq5g0C5reo0D3ljw0C9d1c0D9d1c0C9d1c0D9d1c0C9" ++
      "d1c0D9d1c0C38fo0B64og0C9q000Basw00C7x6o0Basw00C7x6o0Basw00C7x6o0Bb5uo0C7k800Bb5uo0C7k800B" ++
      "b5uo0C7x6o0Basw00C7x6o0Basw00C7x6o0Bb5uo0C7k800Bb5uo0C7k800Bb5uo0C7k800Bb5uo0C7x6o0Basw00" ++
      "C7x6o0Basw00C7x6o0Bb5uo0C7k800B1vbzw0Cqnc40", none⟩,
  ⟨"Asia/Beirut", [8520, 7200, 10800],
    "B15r12rcCkzyucoBaunw0C88dg0B9et80C8yas0Ba2vw0Ca31g0B7k580Chjqo40B7v980Cawo40B7v980Cawo40B7v" ++
      "980Cayis0B7v980Cawo40B7v980C5lhs40B56yk0Cawo40B7v980Cawo40B7v980Cawo40B7v980Cayis0B7v980C" ++
      "awo40B7v980Cautg0B7v980C2wxus0B8n180Ca4w40B8n180Ca4w40B8n180Ca4w40B8n180Cbs5g0B71mk0Calk4" ++
      "0B86d80Ca4w40B8n180Ca4w40B8n180Ca6qs0B80t80C905g0B9cyk0C9d440B9cyk0C9d440B9cyk0C9q2s0B9cy" ++
      "k0C9d440B9cyk0C9d440B9cyk0",
    some ⟨1999, ⟨3, 6, 24, 79200, 10800⟩, ⟨10, 6, 24, 75600, 7200⟩⟩⟩,
  ⟨"Asia/Bishkek", [17904, 18000, 21600, 25200],
    "B1svy26oC379zxcDqi27w0C9et80D9d440C9et80D9d440C9et80D9eys0C9d6w0D9d1c0C9d1c0D9d1c0C9d1c0D9d" ++
      "1c0C9d1c0D9d1c0C9d1c0D9d1c0C9d1c0D9d1c0C9q000Bh8dc0Cbkl80B8n180Ca31g0B8n180Ca31g0B8n180Ca" ++
      "31g0B8n180Ca31g0B8zzw0C9db20Bast80C7x9g0Bast80C7x9g0Bb5rw0C7kas0Bb5rw0C7kas0Bb5rw0C7x9g0B" ++
      "ast80C7x9g0Bast80C7x9g0Bb5rw0C7kas0", none⟩,
  ⟨"Asia/Chita", [27232, 28800, 32400, 36000],
    "B1qlmwbkC5hkxggDqi27w0C9et80D9d440C9et80D9d440C9et80D9eys0C9d6w0D9d1c0C9d1c0D9d1c0C9d1c0D9d" ++
      "1c0C9d1c0D9d1c0C9d1c0D9d1c0C9d1c0D9d1c0C9q000Biq5g0C5reo0D3ljw0C9d1c0D9d1c0C9d1c0D9d1c0C9" ++
      "d1c0D9d1c0C9d1c0D9q000Casw00D7x6o0Casw00D7x6o0Casw00D7x6o0Cb5uo0D7k800Cb5uo0D7k800Cb5uo0D" ++
      "7x6o0Casw00D7x6o0Casw00D7x6o0Cb5uo0D7k800Cb5uo0D7k800Cb5uo0D7k800Cb5uo0D7x6o0Casw00D7x6o0" ++
      "Casw00D7x6o0Cb5uo0D7k800B1vbzw0Cqnew0", none⟩,
  ⟨"Asia/Colombo", [19164, 19172, 19800, 21600, 23400],
    "B15r0ujoCdkh6nsDisle6kEcajy0C1mp2u0Eqetjw0D7x5a0C4xvqq0", none⟩,
  ⟨"Asia/Damascus", [8712, 7200, 10800],
    "B1qmiry0C5k6q0B8n180Ca31g0B8n180Ca31g0B8n180Ca31g0B8zzw0Ck4hk40B7yyk0Cawo40B7tek0Cb0dg0B7v9" ++
      "80Cawo40B7tek0Calk40B887w0Cawo40B7v980Cayis0B7v980Cawo40B7v980Cawo40B7v980Cawo40B7v980Cay" ++
      "is0B7v980Cawo40B7v980Cawo40B7v980Cawo40B7v980Cayis0B7v980Cawo40B6bp80Ccg840B6bp80C2eh1g0B" ++
      "8zzw0C9ts40B8zzw0Cpvk40Bc33w0C7cw40Bcjrw0C6zxg0Bbtuk0C7rpg0B9gnw0C9d440B9cyk0C9et80B9et80" ++
      "C9rxg0B91uk0C92040B9et80C9o840B9et80C9d440B9et80C9eys0B9et80C9b9g0B9gnw0C99es0B9iik0C9d44" ++
      "0B9et80C9eys0B9et80C9d440B9et80C9d440B9et80C9d440B9et80C9eys0B9et80C9d440B9et80C9d440B8y5" ++
      "80C9q2s0Bb5rw0C7x9g0Baunw0C7ig40Bb5rw0C7x9g0Bast80C7x9g0Bast80C7x9g0Bast80C7x9g0Bast80C7x" ++
      "9g0Bb5rw0C7kas0Bb5rw0C7kas0Bb5rw0C7x9g0Bast80C7x9g0Bast80C7x9g0Bast80C7x9g0Bb5rw0C7kas0Bb" ++
      "5rw0C7kas0", none⟩,
  ⟨"Asia/Dhaka", [21700, 21200, 23400, 19800, 21600, 25200],
    "B1ayxlx8Cr080dwDbmgywC5lxg0E4qknw0Fu4ijy0Ea1400", none⟩,
  ⟨"Asia/Dili", [30140, 28800, 32400], "B1mg78g0Cfqct80Bhufs00Ccpz440", none⟩,
  ⟨"Asia/Dubai", [13272, 14400], "B1qmiofc", none⟩,
  ⟨"Asia/Dushanbe", [16512, 18000, 21600, 25200],
    "B1svy39cC379yuoDqi27w0C9et80D9d440C9et80D9d440C9et80D9eys0C9d6w0D9d1c0C9d1c0D9d1c0C9d1c0D9d" ++
      "1c0C9d1c0D9d1c0C9d1c0D9d1c0C9d1c0D9d1c0C9q000Bhp440", none⟩,
  ⟨"Asia/Famagusta", [8148, 7200, 10800],
    "B1rlnlpoCrvhy2cB9cyk0Cb42s0B7nuk0C8yas0B8zzw0C9q2s0B9et80C9b9g0B9cyk0C9q2s0B8zzw0C9d440B9cy" ++
      "k0C9d440B9cyk0C9d440B9cyk0C9d440B9px80C9d440B9cyk0C9d440B9cyk0C9d440B9cyk0C9d440B9cyk0C9d" ++
      "440B9cyk0C9d440B9px80C9d440B9cyk0C9d440B9cyk0C9d440B9cyk0C9d440B9cyk0C9d440B9cyk0C9q2s0B9" ++
      "cyk0C9d440B9cyk0C9d440Bat4c0C7x6o0Bb5uo0C7k800Bb5uo0C7k800Bb5uo0C7x6o0Basw00C7x6o0Basw00C" ++
      "7x6o0Bb5uo0C7k800Bb5uo0C7k800Bb5uo0C7k800Bb5uo0C7x6o0Basw00C7x6o0Basw00C7x6o0Bb5uo0C7k800" ++
      "Bb5uo0C7k800Bb5uo0C7x6o0Basw00C7x6o0Basw00C7x6o0Basw00C7x6o0Btvxc0",
    some (european 2018 7200)⟩,
  ⟨"Asia/Gaza", [8272, 7200, 10800],
    "B1gkuey8Ckp9t1sB69xc0C2f1c0B10q800C7rmo0Bb0ao0C7thc0Bb0ao0C8jeo0Ba8io0C8jeo0Ba8io0C5hoig0B7" ++
      "el80Cawo40B7v980Cawqw0B7tk40Cb07w0B7tk40Cayd80B7tk40Cayd80B7tk40Cayd80B7tk40Cb07w0B7tk40C" ++
      "ayd80B7tk40Cayd80B7ves0Cawik0B1sns0C3p6is0B51ek0C9q2s0B6u7w0C2kjk40B25s00C1weyo0B5reo0Cbv" ++
      "s00B776k0Cdbpg0B5rbw0Cbbhg0B7rjw0Casys0B7k580Cc8tg0B6h980Cag040B7x3w0Casys0B8a2k0Casys0B8" ++
      "a2k0Cap9g0B80t80Cap9g0B7nuk0Cb2840B80t80Cb2840B8n400Ca2yo0B8n400Ca2yo0B8n400Casw00B9cyk0C" ++
      "9q2s0B9cyk0C9d440B9cyk0C9d440B9cyk0C9d440B9cyk0C9d440B8n400Ca2yo0B8ulg0C97ek0B8y580C9ts40" ++
      "B8hms0Ca4qk0B7x3w0Casys0B8a5c0Cahs1oB71micCbzk5oB69uicCcg840B902o0C9q000B9cyk0C9d440Bast8" ++
      "0C7z440Bar1c0C7z440Bb5rw0C7kas0Bb5rw0C7kas0Bb5rw0C7vc00Baunw0C7x9g0Basw00C7x6o0Bb4000C7nx" ++
      "c0Bb42s0C9d440B9cyk0C905g0B9px80C8n6s0Ba2vw0C7x9g0Bast80C7x9g0Bb5rw0C7kas0Bb5rw0C7kas0Bb5" ++
      "rw0C7x9g0Bast80C7x9g0Bast80C7x9g0Bb5rw0C7kas0Bb5rw0C7kas0Bb5rw0C7kas0Bb5rw0C7x9g0Bafuk0C8" ++
      "a840Ba2vw0C8n6s0B9cyk0C9d440B8zzw0C9q2s0B8a2k0C2itg0Bcvw0C7x9g0B7k580C25us0B12t80C7x9g0B7" ++
      "76k0C25us0B1frw0C7x9g0B6h980C2itg0B1sqk0C7x9g0B64ak0C25us0B2vmk0C7kas0B5rbw0C25us0B38l80C" ++
      "7kas0B51ek0C2itg0B3ljw0C7x9g0B4bh80C25us0B4bh80C7x9g0B3ljw0C2itg0B4ofw0C7x9g0B38l80C25us0" ++
      "B5rbw0C7kas0B2vmk0C25us0B64ak0C7kas0B25p80C2itg0B6h980C7x9g0B1frw0C25us0B776k0C7x9g0Bpuk0" ++
      "C2itg0B7k580C7x9g0Bcvw0C2itg0B7x3w0Ca31g0B8zzw0C9d440B9cyk0C8n6s0Ba2vw0C8a840Bafuk0C7x9g0" ++
      "Bast80C7x9g0Bb5rw0C7kas0Bb5rw0C7kas0Bb5rw0C7kas0Bb5rw0C7x9g0Bast80C7x9g0Bast80C7x9g0Bb5rw" ++
      "0C7kas0Bb5rw0C7kas0Bast80C8a840Ba2vw0C8n6s0B9px80C905g0B8zzw0C9q2s0B8n180C25us0Bcvw0C7kas" ++
      "0B8a2k0C25us0Bpuk0C7kas0B7k580C2itg0B12t80C7x9g0B6u7w0C25us0B1sqk0C7x9g0B64ak0C2itg0B25p8" ++
      "0C7x9g0B5rbw0C2itg0B2vmk0C7kas0B5ed80C25us0B3ljw0C7kas0B4ofw0C2itg0B3yik0C7x9g0B3yik0C25u" ++
      "s0B4ofw0C7x9g0B3ljw0C25us0B51ek0C7x9g0B2vmk0C2itg0B5ed80C7x9g0B2inw0C25us0B6h980C7kas0B1s" ++
      "qk0C2itg0B6u7w0C7kas0B1frw0C2itg0B776k0C7x9g0Bpuk0C25us0B7x3w0",
    some ⟨2087, ⟨3, 6, 24, 0, 10800⟩, ⟨10, 5, 23, 82800, 7200⟩⟩⟩,
  ⟨"Asia/Hebron", [8423, 7200, 10800],
    "B1gkueu1Ckp9t5zB69xc0C2f1c0B10q800C7rmo0Bb0ao0C7thc0Bb0ao0C8jeo0Ba8io0C8jeo0Ba8io0C5hoig0B7" ++
      "el80Cawo40B7v980Cawqw0B7tk40Cb07w0B7tk40Cayd80B7tk40Cayd80B7tk40Cayd80B7tk40Cb07w0B7tk40C" ++
      "ayd80B7tk40Cayd80B7ves0Cawik0B1sns0C3p6is0B51ek0C9q2s0B6u7w0C2kjk40B25s00C1weyo0B5reo0Cbv" ++
      "s00B776k0Cdbpg0B5rbw0Cbbhg0B7rjw0Casys0B7k580Cc8tg0B6h980Cag040B7x3w0Casys0B8a2k0Casys0B8" ++
      "a2k0Cap9g0B80t80Cap9g0B7nuk0Cb2840B80t80Cb2840B8n400Ca2yo0B8n400Ca2yo0B8n400Casw00B9cyk0C" ++
      "9q2s0B9cyk0C9d440B9cyk0C9d440B9cyk0C9d440B9cyk0C9d440B8n400Ca2yo0B8ulg0C97ek0B8y580C9ts40" ++
      "B8hms0Ca4qk0B82nw0Canes0B8a5c0Cafxc0B73h80Cbzk5oB69uicC1hs40B1lbw0C9d440B902o0C9q000B9cyk" ++
      "0C9d440Bast80C7z440Bar1c0C7z440Bb5rw0C7kas0Bb5rw0C7kas0Bb5rw0C7vc00Baunw0C7x9g0Basw00C7x6" ++
      "o0Bb4000C7nxc0Bb42s0C9d440B9cyk0C905g0B9px80C8n6s0Ba2vw0C7x9g0Bast80C7x9g0Bb5rw0C7kas0Bb5" ++
      "rw0C7kas0Bb5rw0C7x9g0Bast80C7x9g0Bast80C7x9g0Bb5rw0C7kas0Bb5rw0C7kas0Bb5rw0C7kas0Bb5rw0C7" ++
      "x9g0Bafuk0C8a840Ba2vw0C8n6s0B9cyk0C9d440B8zzw0C9q2s0B8a2k0C2itg0Bcvw0C7x9g0B7k580C25us0B1" ++
      "2t80C7x9g0B776k0C25us0B1frw0C7x9g0B6h980C2itg0B1sqk0C7x9g0B64ak0C25us0B2vmk0C7kas0B5rbw0C" ++
      "25us0B38l80C7kas0B51ek0C2itg0B3ljw0C7x9g0B4bh80C25us0B4bh80C7x9g0B3ljw0C2itg0B4ofw0C7x9g0" ++
      "B38l80C25us0B5rbw0C7kas0B2vmk0C25us0B64ak0C7kas0B25p80C2itg0B6h980C7x9g0B1frw0C25us0B776k" ++
      "0C7x9g0Bpuk0C2itg0B7k580C7x9g0Bcvw0C2itg0B7x3w0Ca31g0B8zzw0C9d440B9cyk0C8n6s0Ba2vw0C8a840" ++
      "Bafuk0C7x9g0Bast80C7x9g0Bb5rw0C7kas0Bb5rw0C7kas0Bb5rw0C7kas0Bb5rw0C7x9g0Bast80C7x9g0Bast8" ++
      "0C7x9g0Bb5rw0C7kas0Bb5rw0C7kas0Bast80C8a840Ba2vw0C8n6s0B9px80C905g0B8zzw0C9q2s0B8n180C25u" ++
      "s0Bcvw0C7kas0B8a2k0C25us0Bpuk0C7kas0B7k580C2itg0B12t80C7x9g0B6u7w0C25us0B1sqk0C7x9g0B64ak" ++
      "0C2itg0B25p80C7x9g0B5rbw0C2itg0B2vmk0C7kas0B5ed80C25us0B3ljw0C7kas0B4ofw0C2itg0B3yik0C7x9" ++
      "g0B3yik0C25us0B4ofw0C7x9g0B3ljw0C25us0B51ek0C7x9g0B2vmk0C2itg0B5ed80C7x9g0B2inw0C25us0B6h" ++
      "980C7kas0B1sqk0C2itg0B6u7w0C7kas0B1frw0C2itg0B776k0C7x9g0Bpuk0C25us0B7x3w0",
    some ⟨2087, ⟨3, 6, 24, 0, 10800⟩, ⟨10, 5, 23, 82800, 7200⟩⟩⟩,
  ⟨"Asia/Ho_Chi_Minh", [25590, 25200, 28800, 32400],
    "B1m3lll6Cgj25iuD15ct80B8so00Ctmtk0B4azmo0C2cm7w0B8285c0", none⟩,
  ⟨"Asia/Hong_Kong", [27402, 28800, 32400, 30600],
    "B1iphb80Cj44dk0D5k000C4d4y0B2195i0C7x3w0Bbj320C6uao0Bbvs00C7x6o0B9d1c0C7x6o0Basw00C7x6o0Bas" ++
      "w00C7x6o0Basw00C8a5c0Basw00C7x6o0Bast80C77c40Bbiqk0C77c40Bbvp80C6udg0Bbvp80C77c40Bbiqk0C7" ++
      "7c40Bbiqk0C77c40Bbiqk0C77c40Bbvp80C6udg0Bbvp80C6udg0Bbvp80C77c40Bbiqk0C77c40Bbiqk0C8n6s0B" ++
      "9cyk0C9d440B9cyk0C9d440B9px80C9d440B9cyk0C9d440B9cyk0C9d440B9cyk0C9d440B9cyk0C9d440B9px80" ++
      "C9d440B9cyk0C3lpg0Bf4d80C9d440B9cyk0C9d440B9cyk0C1c9440B8a2k0", none⟩,
  ⟨"Asia/Hovd", [21996, 21600, 25200, 28800],
    "B1j3mn10C11sncb0D2qk2k0C9et80D9eys0C9cyk0D9d440C9cyk0D9d440C9cyk0D9d440C9cyk0D9d440C9cyk0D9" ++
      "d440C9cyk0D9d440C9px80D9d440C9cyk0D9d440C9cyk0D9d440C9cyk0D9d440C9cyk0D9d440C9cyk0D9q2s0C" ++
      "9cyk0D9d440C9cyk0D9d440C9cyk0D1ckdo0C7x3w0D9d440C9cyk0D9d440C9cyk0D9d440C9cyk0D9d440C9cyk" ++
      "0D9d440C9px80D4fio40C9ct00D9d9o0C9ct00", none⟩,
  ⟨"Asia/Irkutsk", [25025, 25200, 28800, 32400],
    "B1qnqvcvC5fh175Dqi27w0C9et80D9d440C9et80D9d440C9et80D9eys0C9d6w0D9d1c0C9d1c0D9d1c0C9d1c0D9d" ++
      "1c0C9d1c0D9d1c0C9d1c0D9d1c0C9d1c0D9d1c0C9q000Biq5g0C5reo0D3ljw0C9d1c0D9d1c0C9d1c0D9d1c0C9" ++
      "d1c0D9d1c0C9d1c0D9q000Casw00D7x6o0Casw00D7x6o0Casw00D7x6o0Cb5uo0D7k800Cb5uo0D7k800Cb5uo0D" ++
      "7x6o0Casw00D7x6o0Casw00D7x6o0Cb5uo0D7k800Cb5uo0D7k800Cb5uo0D7k800Cb5uo0D7x6o0Casw00D7x6o0" ++
      "Casw00D7x6o0Cb5uo0D7k800C1vbzw0", none⟩,
  ⟨"Asia/Jakarta", [25632, 26400, 27000, 32400, 28800, 25200],
    "B1spnyaoC4lzxc0D4wdzjcC1tu960E1cx860C11jta0F74uc20", none⟩,
  ⟨"Asia/Jayapura", [33768, 32400, 34200], "B1xbnpy0C66bqe0Ba37vy0", none⟩,
  ⟨"Asia/Jerusalem", [8454, 8440, 7200, 10800, 14400],
    "B15r12t6CjtxuoeDbp5aigC69xc0D2f1c0C10q800D7rmo0Cb0ao0D7thc0Cb0ao0D8jeo0Ca8io0D8jeo0Ca8io0Et" ++
      "9pc0D571c0C34yo0D9b6o0C9gqo0D8jeo0C7thc0Da6o00Cbitc0D8a5c0C9d1c0D902o0C7x6o0De1k00C4oio0D" ++
      "e1k00C4oio0Ddolc0C64dc0Dasw00C7k800D8rfeg0C51ek0D9q2s0C6u7w0D2kjk40C25s00D1weyo0C5reo0Dbv" ++
      "s00C776k0Ddbpg0C5rbw0Dbbhg0C7rjw0Dasys0C7k580Dc8tg0C6h980Dag040C7x3w0Dasys0C8a2k0Dasys0C8" ++
      "a2k0Dap9g0C80t80Dap9g0C7nuk0Db2840C80t80D9zc40C9iik0D9kis0C93p80D9mdg0C8qqk0Dapf00C7x3w0D" ++
      "biw40C8zx40D9io40C8n180D9kis0C9vh80D8ulg0C9px80D9mdg0C8n180D9tuw0C9tmk0D8wg40C9gnw0D99es0" ++
      "C8qqk0D9zc40C9tmk0D8wg40C9gnw0D99es0C8qqk0Dacas0C9gnw0D99es0C93p80",
    some ⟨2013, ⟨3, 5, 23, 0, 10800⟩, ⟨10, 6, 24, 82800, 7200⟩⟩⟩,
  ⟨"Asia/Kabul", [16608, 14400, 16200], "B1ayxpuoCspc1pc", none⟩,
  ⟨"Asia/Kamchatka", [38076, 39600, 43200, 46800],
    "B1s47hacC3z045oDqi27w0C9et80D9d440C9et80D9d440C9et80D9eys0C9d6w0D9d1c0C9d1c0D9d1c0C9d1c0D9d" ++
      "1c0C9d1c0D9d1c0C9d1c0D9d1c0C9d1c0D9d1c0C9q000Biq5g0C5reo0D3ljw0C9d1c0D9d1c0C9d1c0D9d1c0C9" ++
      "d1c0D9d1c0C9d1c0D9q000Casw00D7x6o0Casw00D7x6o0Casw00D7x6o0Cb5uo0D7k800Cb5uo0D7k800Cb5uo0D" ++
      "7x6o0Casw00D7x6o0Casw00D7x6o0Cb5uo0D7k800Cb5uo0D7k800Cb5uo0D7k800Cb5uo0D7x6o0Casw00D7x6o0" ++
      "Casw00Bj3440C7k800", none⟩,
  ⟨"Asia/Karachi", [16092, 19800, 23400, 18000, 21600],
    "B1jua0x0Cim3zt0B1mn180D33xpg0Eqd6eq0D9cyk0E2y85g0D7v980E8hms0Daaak0", none⟩,
  ⟨"Asia/Kathmandu", [20476, 19800, 20700], "B1qmiiv8Cyg2lus", none⟩,
  ⟨"Asia/Khandyga", [32533, 28800, 32400, 36000, 39600],
    "B1qlms8bC5hl1jpDqi27w0C9et80D9d440C9et80D9d440C9et80D9eys0C9d6w0D9d1c0C9d1c0D9d1c0C9d1c0D9d" ++
      "1c0C9d1c0D9d1c0C9d1c0D9d1c0C9d1c0D9d1c0C9q000Biq5g0C5reo0D3ljw0C9d1c0D9d1c0C9d1c0D9d1c0C9" ++
      "d1c0D9d1c0C9d1c0D9q000Casw00D7x6o0Casw00D7x6o0Casw00D7x6o0Cb5uo0D7k800Cb5uo0D7k800Cb5uo0D" ++
      "7x6o0Casw00D7x6o0Casw00D3fx40E4h6s0Db5uo0E7k800Db5uo0E7k800Db5uo0E7k800Db5uo0E7x6o0Dasw00" ++
      "E7x6o0Dasw00E7x6o0Db5uo0E7k800D8ql00C1mlho0", none⟩,
  ⟨"Asia/Kolkata", [21208, 21200, 19270, 19800, 23400],
    "Bsfp8ywC83glc8Disc6tmEinnm9aDbmfw0E5lxg0D1mn180", none⟩,
  ⟨"Asia/Krasnoyarsk", [22286, 21600, 25200, 28800],
    "B1qmrqsyC5gg8j2Dqi27w0C9et80D9d440C9et80D9d440C9et80D9eys0C9d6w0D9d1c0C9d1c0D9d1c0C9d1c0D9d" ++
      "1c0C9d1c0D9d1c0C9d1c0D9d1c0C9d1c0D9d1c0C9q000Biq5g0C5reo0D3ljw0C9d1c0D9d1c0C9d1c0D9d1c0C9" ++
      "d1c0D9d1c0C9d1c0D9q000Casw00D7x6o0Casw00D7x6o0Casw00D7x6o0Cb5uo0D7k800Cb5uo0D7k800Cb5uo0D" ++
      "7x6o0Casw00D7x6o0Casw00D7x6o0Cb5uo0D7k800Cb5uo0D7k800Cb5uo0D7k800Cb5uo0D7x6o0Casw00D7x6o0" ++
      "Casw00D7x6o0Cb5uo0D7k800C1vbzw0", none⟩,
  ⟨"Asia/Kuching", [26480, 27000, 28800, 30000, 32400],
    "B1tuawwgC3khwxkD1epvy0C4ohqoDe5a9cC4ohqoDe3flcC4ohqoDe3flcC4ohqoDe3flcC4ohqoDe5a9cC4ohqoDe3" ++
      "flcC4ohqoE3ajlcC1v2qk0", none⟩,
  ⟨"Asia/Macau", [27250, 28800, 32400, 36000],
    "B1iph9n2CjdvyoyD6onw0Cac580D8fs40C7v980B11luw0Cawlc0B7vc00Cac800Bbko00C7x6o0B9d1c0C7vc00Bas" ++
      "w00C7x6o0Basw00C7x6o0Bauqo0C88ao0Basw00C7x6o0Basw00C779c0Bbitc0C779c0Bbvs00C6uao0Bbw1q0C7" ++
      "7c40Bbiqk0C77c40Bbiqk0C77c40Bbiqk0C77c40Bbvp80C6udg0Bbvp80C6udg0Bbvp80C77c40Bbiqk0C77c40B" ++
      "biqk0C8n6s0B9cvs0C9d6w0B9cvs0C9d6w0B9px80C9d440B9cyk0C9d440B9cyk0C9d440B9cyk0C9d440B9cyk0" ++
      "C9d440B9px80C9d440B9cyk0C3lpg0Bf4d80C9d440B9cyk0C9d440B9cyk0C1c9440B8a2k0", none⟩,
  ⟨"Asia/Magadan", [36192, 36000, 39600, 43200],
    "B1svxo2oC37a05cDqi27w0C9et80D9d440C9et80D9d440C9et80D9eys0C9d6w0D9d1c0C9d1c0D9d1c0C9d1c0D9d" ++
      "1c0C9d1c0D9d1c0C9d1c0D9d1c0C9d1c0D9d1c0C9q000Biq5g0C5reo0D3ljw0C9d1c0D9d1c0C9d1c0D9d1c0C9" ++
      "d1c0D9d1c0C9d1c0D9q000Casw00D7x6o0Casw00D7x6o0Casw00D7x6o0Cb5uo0D7k800Cb5uo0D7k800Cb5uo0D" ++
      "7x6o0Casw00D7x6o0Casw00D7x6o0Cb5uo0D7k800Cb5uo0D7k800Cb5uo0D7k800Cb5uo0D7x6o0Casw00D7x6o0" ++
      "Casw00D7x6o0Cb5uo0D7k800B1vbzw0Cs39k0", none⟩]

def asiaB : List ZoneRow := [
  ⟨"Asia/Makassar", [28656, 28800, 32400], "B1xbntw0C4u87w0B1w02k0", none⟩,
  ⟨"Asia/Manila", [-57368, 29032, 28800, 32400],
    "BnhgexkCsjc9igDje0pc0C3wnw0D2kc5g0C22dp80D4d3ms0C2rx80Dbwlpg0C95jw0D6lv1g0C3jp80", none⟩,
  ⟨"Asia/Nicosia", [8008, 7200, 10800],
    "B1rlnltkCrvhxygB9cyk0Cb42s0B7nuk0C8yas0B8zzw0C9q2s0B9et80C9b9g0B9cyk0C9q2s0B8zzw0C9d440B9cy" ++
      "k0C9d440B9cyk0C9d440B9cyk0C9d440B9px80C9d440B9cyk0C9d440B9cyk0C9d440B9cyk0C9d440B9cyk0C9d" ++
      "440B9cyk0C9d440B9px80C9d440B9cyk0C9d440B9cyk0C9d440B9cyk0C9d440B9cyk0C9d440B9cyk0C9q2s0B9" ++
      "cyk0C9d440B9cyk0C9d440Bat4c0", some (european 1999 7200)⟩,
  ⟨"Asia/Novokuznetsk", [20928, 21600, 25200, 28800],
    "B1svw56oC37bu5cDqi27w0C9et80D9d440C9et80D9d440C9et80D9eys0C9d6w0D9d1c0C9d1c0D9d1c0C9d1c0D9d" ++
      "1c0C9d1c0D9d1c0C9d1c0D9d1c0C9d1c0D9d1c0C9q000Biq5g0C5reo0D3ljw0C9d1c0D9d1c0C9d1c0D9d1c0C9" ++
      "d1c0D9d1c0C9d1c0D9q000Casw00D7x6o0Casw00D7x6o0Casw00D7x6o0Cb5uo0D7k800Cb5uo0D7k800Cb5uo0D" ++
      "7x6o0Casw00D7x6o0Casw00D7x6o0Cb5uo0D7k800Cb5uo0D7k800Cb5uo0D7k800Cb5uo0D7x6o0Casw00D7x6o0" ++
      "Casw00Bj3440C7k800", none⟩,
  ⟨"Asia/Novosibirsk", [19900, 21600, 25200, 28800],
    "B1qllnz8C5hmbcsDqi27w0C9et80D9d440C9et80D9d440C9et80D9eys0C9d6w0D9d1c0C9d1c0D9d1c0C9d1c0D9d" ++
      "1c0C9d1c0D9d1c0C9d1c0D9d1c0C9d1c0D9d1c0C9q000Biq5g0C5reo0D3ljw0C9d1c0D9d1c0C2vh00B6hn40C9" ++
      "d1c0B9d1c0C9d1c0B9d1c0C9q000Basw00C7x6o0Basw00C7x6o0Basw00C7x6o0Bb5uo0C7k800Bb5uo0C7k800B" ++
      "b5uo0C7x6o0Basw00C7x6o0Basw00C7x6o0Bb5uo0C7k800Bb5uo0C7k800Bb5uo0C7k800Bb5uo0C7x6o0Basw00" ++
      "C7x6o0Basw00C7x6o0Bb5uo0C7k800B1vbzw0Cwrpg0", none⟩,
  ⟨"Asia/Omsk", [17610, 18000, 21600, 25200],
    "B1qk1p2uC5j6d16Dqi27w0C9et80D9d440C9et80D9d440C9et80D9eys0C9d6w0D9d1c0C9d1c0D9d1c0C9d1c0D9d" ++
      "1c0C9d1c0D9d1c0C9d1c0D9d1c0C9d1c0D9d1c0C9q000Biq5g0C5reo0D3ljw0C9d1c0D9d1c0C9d1c0D9d1c0C9" ++
      "d1c0D9d1c0C9d1c0D9q000Casw00D7x6o0Casw00D7x6o0Casw00D7x6o0Cb5uo0D7k800Cb5uo0D7k800Cb5uo0D" ++
      "7x6o0Casw00D7x6o0Casw00D7x6o0Cb5uo0D7k800Cb5uo0D7k800Cb5uo0D7k800Cb5uo0D7x6o0Casw00D7x6o0" ++
      "Casw00D7x6o0Cb5uo0D7k800C1vbzw0", none⟩,
  ⟨"Asia/Oral", [12324, 10800, 18000, 21600, 14400],
    "B1svy6hoC37a16cDqi2540Cs6qk0D9d440C9et80D9eys0C9d6w0D9d1c0C9d1c0D9d1c0C9d1c0D9d1c0C9d1c0D9d" ++
      "1c0C9d1c0Eiq5g0C9d1c0E9q000C9d1c0E9d1c0C5reo0Ecyo00C9d1c0E9d1c0C9d1c0E9d1c0C9d1c0E9d1c0C9" ++
      "q000Easw00C7x6o0Easw00C7x6o0Easw00C7x6o0Eb5uo0C7k800Eb5uo0C7k800Eb5uo0C7x6o0Easw00C7x6o0E" ++
      "asw00C7x6o0", none⟩,
  ⟨"Asia/Pontianak", [26240, 27000, 32400, 28800, 25200],
    "B1xbnvr4C4tnu2wB1wkei0D1cx860B11jta0D74uc20Ecixam0", none⟩,
  ⟨"Asia/Pyongyang", [30180, 30600, 32400], "B1khq61oC1yh10cB1i2uzy0C1f4qo0", none⟩,
  ⟨"Asia/Qatar", [12368, 14400, 10800], "B1qmip4gCrctnrk", none⟩,
  ⟨"Asia/Qostanay", [15268, 14400, 18000, 21600],
    "B1svy47wC37a0o4Dqi27w0Cs6qk0D9d440C9et80D9eys0C9d6w0D9d1c0C9d1c0D9d1c0C9d1c0D9d1c0C9d1c0D9d" ++
      "1c0C9d1c0D9d1c0C9d1c0D9d1c0C9q000Biq5g0C5reo0D3ljw0C9d1c0D9d1c0C9d1c0D9d1c0C9d1c0D9d1c0C9" ++
      "d1c0D9q000Casw00D7x6o0Casw00D7x6o0Casw00D7x6o0Cb5uo0D7k800Cb5uo0D7k800Cb5uo0D7x6o0Casw00D" ++
      "7x6o0Casw00D7x6o0Caedjo0", none⟩,
  ⟨"Asia/Qyzylorda", [15712, 14400, 18000, 21600],
    "B1svy3vkC37a10gDqi27w0Cs6qk0D9d440C9et80D9eys0C9d6w0D9d1c0C9d1c0D9d1c0C9d1c0D9d1c0C9d1c0D9d" ++
      "1c0C9d1c0D9d1c0C9d1c0D9d1c0C9q000Dohhc0Ccyo00D9d1c0C9d1c0D9d1c0C9d1c0D9d1c0C9d1c0D9q000Ca" ++
      "sw00D7x6o0Casw00D7x6o0Casw00D7x6o0Cb5uo0D7k800Cb5uo0D7k800Cb5uo0D7x6o0Casw00D7x6o0Casw00D" ++
      "7x6o0C7osl00", none⟩,
  ⟨"Asia/Riyadh", [11212, 10800], "B24tj0ok", none⟩,
  ⟨"Asia/Sakhalin", [34248, 32400, 39600, 43200, 36000],
    "B1j4r48oCkvnarcDikvh40C9et80D9d440C9et80D9d440C9et80D9eys0C9d6w0D9d1c0C9d1c0D9d1c0C9d1c0D9d" ++
      "1c0C9d1c0D9d1c0C9d1c0D9d1c0C9d1c0D9d1c0C9q000Eiq5g0C5reo0D3ljw0C9d1c0D9d1c0C9d1c0D9d1c0C9" ++
      "d1c0D9d1c0C9d1c0D9q000Casw00Eiq5g0C7x6o0Easw00C7x6o0Eb5uo0C7k800Eb5uo0C7k800Eb5uo0C7x6o0E" ++
      "asw00C7x6o0Easw00C7x6o0Eb5uo0C7k800Eb5uo0C7k800Eb5uo0C7k800Eb5uo0C7x6o0Easw00C7x6o0Easw00" ++
      "C7x6o0Eb5uo0C7k800E1vbzw0Cqnc40", none⟩,
  ⟨"Asia/Samarkand", [16073, 14400, 18000, 21600],
    "B1svy3ljC37a1ahDqi27w0Cs6qk0D9d440C9et80D9eys0C9d6w0D9d1c0C9d1c0D9d1c0C9d1c0D9d1c0C9d1c0D9d" ++
      "1c0C9d1c0D9d1c0C9d1c0D9d1c0C9q000D9d1c0C9d1c0", none⟩,
  ⟨"Asia/Seoul", [30472, 30600, 32400, 36000, 34200],
    "B1khq5tkC1yh18gDj07fy0C5cik0Dae5g0C8a2k0Dae5g0C8bx80Dc8tg0C6h980B1bj6s0El3aq0B6j3w0Ed2g40B6" ++
      "u7w0Eb5xg0B776k0Ebiw40B776k0Ebiw40B776k0Ebiw40B776k0Cgrs40Ddfqxi0C7x6o0Dasw00C7x6o0", none⟩,
  ⟨"Asia/Shanghai", [29143, 28800, 32400],
    "B1gpkc6hC9jeyxjB8sl80Casbpg0B6w2k0C7ves0Bbxjw0C4mqs0B1vduk0Cd4as0B75bw0Ca31g0Baaak0C9d440B7" ++
      "v980Cawo40B1dx80Cj9xpo0B6u7w0Casys0B7x3w0Cb5xg0B7k580Cb5xg0B7x3w0Casys0B7x3w0Casys0B7x3w0",
    none⟩,
  ⟨"Asia/Singapore", [24925, 25200, 26400, 27000, 32400, 28800],
    "B1j0hm3nCeeb94dD4it32oE8n3jcD1v2p60Fiy3ms0", none⟩,
  ⟨"Asia/Srednekolymsk", [36892, 36000, 39600, 43200],
    "B1svxnj8C37a0osDqi27w0C9et80D9d440C9et80D9d440C9et80D9eys0C9d6w0D9d1c0C9d1c0D9d1c0C9d1c0D9d" ++
      "1c0C9d1c0D9d1c0C9d1c0D9d1c0C9d1c0D9d1c0C9q000Biq5g0C5reo0D3ljw0C9d1c0D9d1c0C9d1c0D9d1c0C9" ++
      "d1c0D9d1c0C9d1c0D9q000Casw00D7x6o0Casw00D7x6o0Casw00D7x6o0Cb5uo0D7k800Cb5uo0D7k800Cb5uo0D" ++
      "7x6o0Casw00D7x6o0Casw00D7x6o0Cb5uo0D7k800Cb5uo0D7k800Cb5uo0D7k800Cb5uo0D7x6o0Casw00D7x6o0" ++
      "Casw00D7x6o0Cb5uo0D7k800C1vbzw0", none⟩,
  ⟨"Asia/Taipei", [29160, 28800, 32400],
    "B1e3muu0Clsd1m0B45slc0Cc51c0B75bw0Ca31g0Baaak0C9d440B7v980Cawo40B7v980Cawo40B7v980Cawo40B7v" ++
      "980C7tk40Bclmk0C7rpg0Bb07w0C7rpg0Bb07w0C7rpg0B9et80C9eys0B9et80C9d440B9et80C9d440B9et80C9" ++
      "d440B9et80Ccjxg0B69uk0Cci2s0B69uk0C6its40B9et80C9d440B9et80C1yf9g0B4qak0", none⟩,
  ⟨"Asia/Tashkent", [16631, 18000, 21600, 25200],
    "B1svy361C379yxzDqi27w0C9et80D9d440C9et80D9d440C9et80D9eys0C9d6w0D9d1c0C9d1c0D9d1c0C9d1c0D9d" ++
      "1c0C9d1c0D9d1c0C9d1c0D9d1c0C9d1c0D9d1c0C9q000Biq5g0", none⟩,
  ⟨"Asia/Tbilisi", [10751, 10800, 14400, 18000],
    "B1svy7pdCh4tjynDckinw0C9et80D9d440C9et80D9d440C9et80D9eys0C9d6w0D9d1c0C9d1c0D9d1c0C9d1c0D9d" ++
      "1c0C9d1c0D9d1c0C9d1c0D9d1c0C9d1c0D9d1c0C9q000Biq5g0C9cvs0B9cyk0C9d440B9cyk0C9d440Dipzw0C9" ++
      "cyk0D9q2s0Ctivw0D7x9g0Cast80D7x9g0Cb5rw0D7kas0Cb5rw0D7kas0Cb5rw0D7x9g0Cast80D7x9g0Cast80D" ++
      "7x9g0C4ofw0B6hn40C7k800", none⟩,
  ⟨"Asia/Tehran", [12344, 12600, 16200, 14400, 18000],
    "B1yoquh4Clsvh0wDayg00E7z2q0D6uao0B51hc0Ca4uq0B5wvw0C9gtg0B9kd80C5ja5g0B7avw0C9d440B9gnw0C9b" ++
      "9g0B9gnw0C9b9g0B9gnw0C9b9g0B9gnw0C9b9g0B9gnw0C9d440B9gnw0C9b9g0B9gnw0C9b9g0B9gnw0C9b9g0B9" ++
      "gnw0C9d440B9gnw0C9b9g0B9gnw0C9b9g0B9gnw0C9b9g0B9gnw0C9d440B9gnw0C1av440B9gnw0C9d440B9gnw0" ++
      "C9b9g0B9gnw0C9b9g0B9gnw0C9b9g0B9gnw0C9d440B9gnw0C9b9g0B9gnw0C9b9g0B9gnw0C9b9g0B9gnw0C9d44" ++
      "0B9gnw0C9b9g0B9gnw0C9b9g0B9gnw0C9b9g0B9gnw0C9d440B9gnw0C9b9g0B9gnw0", none⟩,
  ⟨"Asia/Thimphu", [21516, 19800, 21600], "B251fzecCkxymno", none⟩,
  ⟨"Asia/Tokyo", [33539, 32400, 36000],
    "B19xboc0Cvhjeo0B6uao0Cafxc0B8a5c0Cc8qo0B6hc00Cc8qo0B6hc00", none⟩,
  ⟨"Asia/Tomsk", [20391, 21600, 25200, 28800],
    "B1qm009lC5h7z2fDqi27w0C9et80D9d440C9et80D9d440C9et80D9eys0C9d6w0D9d1c0C9d1c0D9d1c0C9d1c0D9d" ++
      "1c0C9d1c0D9d1c0C9d1c0D9d1c0C9d1c0D9d1c0C9q000Biq5g0C5reo0D3ljw0C9d1c0D9d1c0C9d1c0D9d1c0C9" ++
      "d1c0D9d1c0C9d1c0D9q000Casw00D7x6o0Casw00D7x6o0Casw00D7x6o0Cb5uo0D7k800Cb5uo0D7k800Cb5uo0D" ++
      "7x6o0C1leo0B97k40C7x6o0Basw00C7x6o0Bb5uo0C7k800Bb5uo0C7k800Bb5uo0C7k800Bb5uo0C7x6o0Basw00" ++
      "C7x6o0Basw00C7x6o0Bb5uo0C7k800B1vbzw0Ctw040", none⟩,
  ⟨"Asia/Ulaanbaatar", [25652, 25200, 28800, 32400],
    "B1j3mk7gC11sncckD2qk2k0C9et80D9eys0C9cyk0D9d440C9cyk0D9d440C9cyk0D9d440C9cyk0D9d440C9cyk0D9" ++
      "d440C9cyk0D9d440C9px80D9d440C9cyk0D9d440C9cyk0D9d440C9cyk0D9d440C9cyk0D9d440C9cyk0D9q2s0C" ++
      "9cyk0D9d440C9cyk0D9d440C9cyk0D1ckdo0C7x3w0D9d440C9cyk0D9d440C9cyk0D9d440C9cyk0D9d440C9cyk" ++
      "0D9d440C9px80D4fio40C9ct00D9d9o0C9ct00", none⟩,
  ⟨"Asia/Urumqi", [21020, 21600], "B1ustmg4", none⟩,
  ⟨"Asia/Ust-Nera", [34374, 28800, 32400, 43200, 39600, 36000],
    "B1qlmqt6C5hl2yuDqi27w0E9eno0D9d440E9et80D9d440E9et80D9eys0E9d6w0D9d1c0E9d1c0D9d1c0E9d1c0D9d" ++
      "1c0E9d1c0D9d1c0E9d1c0D9d1c0E9d1c0D9d1c0E9q000Fiq5g0E5reo0D3ljw0E9d1c0D9d1c0E9d1c0D9d1c0E9" ++
      "d1c0D9d1c0E9d1c0D9q000Easw00D7x6o0Easw00D7x6o0Easw00D7x6o0Eb5uo0D7k800Eb5uo0D7k800Eb5uo0D" ++
      "7x6o0Easw00D7x6o0Easw00D7x6o0Eb5uo0D7k800Eb5uo0D7k800Eb5uo0D7k800Eb5uo0D7x6o0Easw00D7x6o0" ++
      "Easw00D7x6o0Eb5uo0D7k800E8ql00F1mlho0", none⟩,
  ⟨"Asia/Vladivostok", [31651, 32400, 36000, 39600],
    "B1s4gvktC3yqvf7Dqi27w0C9et80D9d440C9et80D9d440C9et80D9eys0C9d6w0D9d1c0C9d1c0D9d1c0C9d1c0D9d" ++
      "1c0C9d1c0D9d1c0C9d1c0D9d1c0C9d1c0D9d1c0C9q000Biq5g0C5reo0D3ljw0C9d1c0D9d1c0C9d1c0D9d1c0C9" ++
      "d1c0D9d1c0C9d1c0D9q000Casw00D7x6o0Casw00D7x6o0Casw00D7x6o0Cb5uo0D7k800Cb5uo0D7k800Cb5uo0D" ++
      "7x6o0Casw00D7x6o0Casw00D7x6o0Cb5uo0D7k800Cb5uo0D7k800Cb5uo0D7k800Cb5uo0D7x6o0Casw00D7x6o0" ++
      "Casw00D7x6o0Cb5uo0D7k800C1vbzw0", none⟩,
  ⟨"Asia/Yakutsk", [31138, 28800, 32400, 36000],
    "B1qlmtb2C5hl0gyDqi27w0C9et80D9d440C9et80D9d440C9et80D9eys0C9d6w0D9d1c0C9d1c0D9d1c0C9d1c0D9d" ++
      "1c0C9d1c0D9d1c0C9d1c0D9d1c0C9d1c0D9d1c0C9q000Biq5g0C5reo0D3ljw0C9d1c0D9d1c0C9d1c0D9d1c0C9" ++
      "d1c0D9d1c0C9d1c0D9q000Casw00D7x6o0Casw00D7x6o0Casw00D7x6o0Cb5uo0D7k800Cb5uo0D7k800Cb5uo0D" ++
      "7x6o0Casw00D7x6o0Casw00D7x6o0Cb5uo0D7k800Cb5uo0D7k800Cb5uo0D7k800Cb5uo0D7x6o0Casw00D7x6o0" ++
      "Casw00D7x6o0Cb5uo0D7k800C1vbzw0", none⟩,
  ⟨"Asia/Yangon", [23087, 23400, 32400], "B1qmigupCbnjp3bB1kh520", none⟩,
  ⟨"Asia/Yekaterinburg", [14553, 13505, 14400, 18000, 21600],
    "B1ostu3rC1kybx4D5pfyv5Eqi27w0D9et80E9d440D9et80E9d440D9et80E9eys0D9d6w0E9d1c0D9d1c0E9d1c0D9" ++
      "d1c0E9d1c0D9d1c0E9d1c0D9d1c0E9d1c0D9d1c0E9d1c0D9q000Ciq5g0D5reo0E3ljw0D9d1c0E9d1c0D9d1c0E" ++
      "9d1c0D9d1c0E9d1c0D9d1c0E9q000Dasw00E7x6o0Dasw00E7x6o0Dasw00E7x6o0Db5uo0E7k800Db5uo0E7k800" ++
      "Db5uo0E7x6o0Dasw00E7x6o0Dasw00E7x6o0Db5uo0E7k800Db5uo0E7k800Db5uo0E7k800Db5uo0E7x6o0Dasw0" ++
      "0E7x6o0Dasw00E7x6o0Db5uo0E7k800D1vbzw0", none⟩,
  ⟨"Asia/Yerevan", [10680, 10800, 14400, 18000],
    "B1svy7rcCh4tjwoDckinw0C9et80D9d440C9et80D9d440C9et80D9eys0C9d6w0D9d1c0C9d1c0D9d1c0C9d1c0D9d" ++
      "1c0C9d1c0D9d1c0C9d1c0D9d1c0C9d1c0D9d1c0C9q000Biq5g0C9d1c0B9d1c0C9d1c0B9d1c0C9d1c0B9d1c0C9" ++
      "d1c0D11t180Casw00D7x6o0Casw00D7x6o0Cb5uo0D7k800Cb5uo0D7k800Cb5uo0D7x6o0Casw00D7x6o0Casw00" ++
      "D7x6o0Cb5uo0D7k800Cb5uo0D7k800Cb5uo0D7k800Cb5uo0D7x6o0Casw00D7x6o0Casw00D7x6o0Cb5uo0D7k80" ++
      "0Cb5uo0",
    none⟩]

def asia : List ZoneRow := asiaA ++ asiaB

end HttpJournal.ZoneTable
