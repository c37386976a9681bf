import HttpJournal.Time.ZoneRow

namespace HttpJournal.ZoneTable

def americaA : List ZoneRow := [
  ⟨"America/Adak", [44002, -42398, -39600, -36000, -32400],
    "Bzdrlg1Ch4z1xpDln70qaC1wd180Dcawis0C9cyk0D9d440C9cyk0D9d440C9px80D9d440C9cyk0D9d440C9cyk0D3" ++
      "lpg0Cf4d80D64g40Cclmk0D9d440C9px80D905g0C9px80D9d440C9cyk0D9d440C9cyk0D9d440C9cyk0D9d440C" ++
      "9cyk0D9d440C9px80D905g0Ej2yk0D9cyk0E9d440D9cyk0E9d440D9cyk0E8a840Dafuk0E8a840Dast80E7x9g0" ++
      "Dast80E7x9g0Dast80E8a840Dafuk0E8a840Dafuk0E8a840Dast80E7x9g0Dast80E7x9g0Dast80E8a840Dafuk" ++
      "0E8a840Dafuk0E8a840Dafuk0E8a840Dast80E7x9g0Dast80E7x9g0Dast80E8a840Dafuk0E8a840Dafuk0E8a8" ++
      "40Dast80E7x9g0Dast80E7x9g0Dast80", some (northAmerican 2007 (-36000))⟩,
  ⟨"America/Anchorage", [50424, -35976, -36000, -32400, -28800],
    "Bzdrlg1Ch4ywzbDln72woC1wd180Dcawis0C9cyk0D9d440C9cyk0D9d440C9px80D9d440C9cyk0D9d440C9cyk0D3" ++
      "lpg0Cf4d80D64g40Cclmk0D9d440C9px80D905g0C9px80D9d440C9cyk0D9d440C9cyk0D9d440C9cyk0D9d440C" ++
      "9cyk0D9d440C9px80D905g0Ej2yk0D9cyk0E9d440D9cyk0E9d440D9cyk0E8a840Dafuk0E8a840Dast80E7x9g0" ++
      "Dast80E7x9g0Dast80E8a840Dafuk0E8a840Dafuk0E8a840Dast80E7x9g0Dast80E7x9g0Dast80E8a840Dafuk" ++
      "0E8a840Dafuk0E8a840Dafuk0E8a840Dast80E7x9g0Dast80E7x9g0Dast80E8a840Dafuk0E8a840Dafuk0E8a8" ++
      "40Dast80E7x9g0Dast80E7x9g0Dast80", some (northAmerican 2007 (-32400))⟩,
  ⟨"America/Araguaina", [-11568, -10800, -7200],
    "B1nhtsxcC99k8moB9a9c0C9io40B99980C8p65g0B6zuo0Cbs2o0B67zw0Ccjxg0B69uk0Ccjxg0B4ml80C5mf440B4" ++
      "9mk0Chaas0B316k0Ccls40B4ml80Ccls40B66580Ccls40B67zw0C981s40B6u7w0Cbiw40B5rbw0Cd0lg0B5ed80" ++
      "Ccyqs0B5ed80Cdbpg0B64ak0C2yl440B64ak0Cc8tg0B6u7w0Cbxpg0B7iak0Cbiw40B6u7w0Cbiw40B7k580Cbiw" ++
      "40B6u7w0Cc8tg0B6h980Cdbpg0B5ed80C51udg0B64ak0", none⟩,
  ⟨"America/Argentina/Buenos_Aires", [-14028, -15408, -14400, -10800, -7200],
    "B1dhp1hoCdb2bqcD5iv8k0C67zw0Da4w40C73h80Dcls40C66580Dcls40C66580Dcls40C66580Dcls40C67zw0Dcl" ++
      "s40C66580Dcls40C66580Dcls40C66580Dcls40C67zw0D6a040Chy7w0D6a040Cxovw0D3uys0C18nbw0Db0dg0C" ++
      "8ve2k0D3uys0C3yik0Dbqas0C71mk0Dbqas0C71mk0Dbqas0C8ovw0D9d440C9px80D9d440C9cyk0D9d440E28t6" ++
      "k0D51ek0E7m2qs0D4tzw0Ebiw40D776k0Ebvus0D6u7w0Ebvus0D6u7w0Ebvus0D776k0E7qcg40D3yik0Eb5xg0D" ++
      "7k580",
    none⟩,
  ⟨"America/Argentina/Catamarca", [-15788, -15408, -14400, -10800, -7200],
    "B1dhp2ukCdb2adgD5iv8k0C67zw0Da4w40C73h80Dcls40C66580Dcls40C66580Dcls40C66580Dcls40C67zw0Dcl" ++
      "s40C66580Dcls40C66580Dcls40C66580Dcls40C67zw0D6a040Chy7w0D6a040Cxovw0D3uys0C18nbw0Db0dg0C" ++
      "8ve2k0D3uys0C3yik0Dbqas0C71mk0Dbqas0C71mk0Dbqas0C8ovw0D9d440C9px80D9d440C9cyk0D9d440E28t6" ++
      "k0D51ek0E7m2qs0D4tzw0Ebiw40D776k0Ebvus0C6u7w0Ebvxk0D6u540Ebvus0D776k0C5v42s0Dz9g0E1u93w0D" ++
      "3yik0",
    none⟩,
  ⟨"America/Argentina/Cordoba", [-15408, -14400, -10800, -7200],
    "B1qsrd80C5iv8k0B67zw0Ca4w40B73h80Ccls40B66580Ccls40B66580Ccls40B66580Ccls40B67zw0Ccls40B665" ++
      "80Ccls40B66580Ccls40B66580Ccls40B67zw0C6a040Bhy7w0C6a040Bxovw0C3uys0B18nbw0Cb0dg0B8ve2k0C" ++
      "3uys0B3yik0Cbqas0B71mk0Cbqas0B71mk0Cbqas0B8ovw0C9d440B9px80C9d440B9cyk0C9d440D28t6k0C51ek" ++
      "0D7m2qs0C4tzw0Dbiw40C776k0Dbvus0B6u7w0Dbvxk0C6u540Dbvus0C776k0D7qcg40C3yik0Db5xg0C7k580",
    none⟩,
  ⟨"America/Argentina/Jujuy", [-15672, -15408, -14400, -10800, -7200],
    "B1dhp2rcCdb2agoD5iv8k0C67zw0Da4w40C73h80Dcls40C66580Dcls40C66580Dcls40C66580Dcls40C67zw0Dcl" ++
      "s40C66580Dcls40C66580Dcls40C66580Dcls40C67zw0D6a040Chy7w0D6a040Cxovw0D3uys0C18nbw0Db0dg0C" ++
      "8ve2k0D3uys0C3yik0Dbqas0C71mk0Dbqas0C71mk0Dbqas0C8ovw0D9d440C9px80D9d440C9cyk0D9d440E28t6" ++
      "k0D51ek0E7m2qs0D4tzw0Ebiw40C776k0Dc8w80C776k0Eag040D7k2g0Ebvus0D776k0E7qcg40D3yik0", none⟩,
  ⟨"America/Argentina/La_Rioja", [-16044, -15408, -14400, -10800, -7200],
    "B1dhp31oCdb2a6cD5iv8k0C67zw0Da4w40C73h80Dcls40C66580Dcls40C66580Dcls40C66580Dcls40C67zw0Dcl" ++
      "s40C66580Dcls40C66580Dcls40C66580Dcls40C67zw0D6a040Chy7w0D6a040Cxovw0D3uys0C18nbw0Db0dg0C" ++
      "8ve2k0D3uys0C3yik0Dbqas0C71mk0Dbqas0C71mk0Dbqas0C8ovw0D9d440C9px80D9d440C9cyk0D9d440E28t6" ++
      "k0D51ek0E7m2qs0D4tzw0Ebiw40D776k0Ebvus0C6qik0D3g880E8jbw0D6u7w0Ebvus0D776k0C5v42s0Dz9g0E1" ++
      "u93w0D3yik0", none⟩,
  ⟨"America/Argentina/Mendoza", [-16516, -15408, -14400, -10800, -7200],
    "B1dhp3esCdb29t8D5iv8k0C67zw0Da4w40C73h80Dcls40C66580Dcls40C66580Dcls40C66580Dcls40C67zw0Dcl" ++
      "s40C66580Dcls40C66580Dcls40C66580Dcls40C67zw0D6a040Chy7w0D6a040Cxovw0D3uys0C18nbw0Db0dg0C" ++
      "8ve2k0D3uys0C3yik0Dbqas0C71mk0Dbqas0C71mk0Dbqas0C8ovw0D9d440C9px80D9d440C9cyk0D9d440E28t6" ++
      "k0D51ek0E7m2qs0D4tzw0Ebiw40C776k0Dbktk0C71mk0Dbqas0C73h80Ebvus0D773s0C5unes0D6hes0E1p7mk0" ++
      "D3yik0",
    none⟩,
  ⟨"America/Argentina/Rio_Gallegos", [-16612, -15408, -14400, -10800, -7200],
    "B1dhp3hgCdb29qkD5iv8k0C67zw0Da4w40C73h80Dcls40C66580Dcls40C66580Dcls40C66580Dcls40C67zw0Dcl" ++
      "s40C66580Dcls40C66580Dcls40C66580Dcls40C67zw0D6a040Chy7w0D6a040Cxovw0D3uys0C18nbw0Db0dg0C" ++
      "8ve2k0D3uys0C3yik0Dbqas0C71mk0Dbqas0C71mk0Dbqas0C8ovw0D9d440C9px80D9d440C9cyk0D9d440E28t6" ++
      "k0D51ek0E7m2qs0D4tzw0Ebiw40D776k0Ebvus0D6u7w0Ebvus0D6u7w0Ebvus0D776k0C5v42s0Dz9g0E1u93w0D" ++
      "3yik0",
    none⟩,
  ⟨"America/Argentina/Salta", [-15700, -15408, -14400, -10800, -7200],
    "B1dhp2s4Cdb2afwD5iv8k0C67zw0Da4w40C73h80Dcls40C66580Dcls40C66580Dcls40C66580Dcls40C67zw0Dcl" ++
      "s40C66580Dcls40C66580Dcls40C66580Dcls40C67zw0D6a040Chy7w0D6a040Cxovw0D3uys0C18nbw0Db0dg0C" ++
      "8ve2k0D3uys0C3yik0Dbqas0C71mk0Dbqas0C71mk0Dbqas0C8ovw0D9d440C9px80D9d440C9cyk0D9d440E28t6" ++
      "k0D51ek0E7m2qs0D4tzw0Ebiw40D776k0Ebvus0C6u7w0Ebvxk0D6u540Ebvus0D776k0E7qcg40D3yik0", none⟩,
  ⟨"America/Argentina/San_Juan", [-16444, -15408, -14400, -10800, -7200],
    "B1dhp3csCdb29v8D5iv8k0C67zw0Da4w40C73h80Dcls40C66580Dcls40C66580Dcls40C66580Dcls40C67zw0Dcl" ++
      "s40C66580Dcls40C66580Dcls40C66580Dcls40C67zw0D6a040Chy7w0D6a040Cxovw0D3uys0C18nbw0Db0dg0C" ++
      "8ve2k0D3uys0C3yik0Dbqas0C71mk0Dbqas0C71mk0Dbqas0C8ovw0D9d440C9px80D9d440C9cyk0D9d440E28t6" ++
      "k0D51ek0E7m2qs0D4tzw0Ebiw40D776k0Ebvus0C6qik0D3g880E8jbw0D6u7w0Ebvus0D776k0C5v2840D2txg0E" ++
      "1sgak0D3yik0", none⟩,
  ⟨"America/Argentina/San_Luis", [-15924, -15408, -14400, -10800, -7200],
    "B1dhp2ycCdb2a9oD5iv8k0C67zw0Da4w40C73h80Dcls40C66580Dcls40C66580Dcls40C66580Dcls40C67zw0Dcl" ++
      "s40C66580Dcls40C66580Dcls40C66580Dcls40C67zw0D6a040Chy7w0D6a040Cxovw0D3uys0C18nbw0Db0dg0C" ++
      "8ve2k0D3uys0C3yik0Dbqas0C71mk0Dbqas0C71mk0Dbqas0C8ovw0D9d440C9px80D9d440C9cyk0D9d440E28t6" ++
      "k0D51ek0E7m2qs0D4tzw0Ebiw40C7pp80Db2aw0C71mk0D4qg40C6s8ik0D2txg0E1sgak0D14nw0C2gys0Db5xg0" ++
      "C7k580Db5xg0", none⟩,
  ⟨"America/Argentina/Tucuman", [-15652, -15408, -14400, -10800, -7200],
    "B1dhp2qsCdb2ah8D5iv8k0C67zw0Da4w40C73h80Dcls40C66580Dcls40C66580Dcls40C66580Dcls40C67zw0Dcl" ++
      "s40C66580Dcls40C66580Dcls40C66580Dcls40C67zw0D6a040Chy7w0D6a040Cxovw0D3uys0C18nbw0Db0dg0C" ++
      "8ve2k0D3uys0C3yik0Dbqas0C71mk0Dbqas0C71mk0Dbqas0C8ovw0D9d440C9px80D9d440C9cyk0D9d440E28t6" ++
      "k0D51ek0E7m2qs0D4tzw0Ebiw40D776k0Ebvus0C6u7w0Ebvxk0D6u540Ebvus0D776k0C5v42s0Dmas0E1um2k0D" ++
      "3yik0Eb5xg0D7k580", none⟩,
  ⟨"America/Argentina/Ushuaia", [-16392, -15408, -14400, -10800, -7200],
    "B1dhp3bcCdb29woD5iv8k0C67zw0Da4w40C73h80Dcls40C66580Dcls40C66580Dcls40C66580Dcls40C67zw0Dcl" ++
      "s40C66580Dcls40C66580Dcls40C66580Dcls40C67zw0D6a040Chy7w0D6a040Cxovw0D3uys0C18nbw0Db0dg0C" ++
      "8ve2k0D3uys0C3yik0Dbqas0C71mk0Dbqas0C71mk0Dbqas0C8ovw0D9d440C9px80D9d440C9cyk0D9d440E28t6" ++
      "k0D51ek0E7m2qs0D4tzw0Ebiw40D776k0Ebvus0D6u7w0Ebvus0D6u7w0Ebvus0D776k0C5v0dg0D12ys0E1u93w0" ++
      "D3yik0",
    none⟩,
  ⟨"America/Asuncion", [-13840, -14400, -10800],
    "B1wrq80gCldwofkBs4vw0Cs6w40B7tek0Cb0dg0B7rjw0Cb0dg0B7rjw0Cb0dg0B9cyk0C9eys0B9et80C9eys0B9cy" ++
      "k0C9eys0B9cyk0C9eys0B9cyk0C9eys0B9et80C9eys0B9cyk0C9eys0B9cyk0C9eys0B9cyk0C9eys0B9et80C9e" ++
      "ys0B9cyk0Cahus0B8a2k0C9eys0B9cyk0C9o840B7k580Cb7s40B93p80C9gtg0B7nuk0Cb42s0B7lzw0Cb5xg0B7" ++
      "tek0Cb9ms0B776k0Cbiw40B7k580Cb5xg0B7x3w0Casys0B7x3w0Casys0B7x3w0Cb5xg0B9cyk0C7kas0Bb5rw0C" ++
      "7x9g0Bast80Ca31g0B7k580Cb5xg0B7k580Cb5xg0B7k580Cbiw40B776k0Cbiw40B776k0Cbiw40B8zzw0C905g0" ++
      "B9px80C905g0B9px80C9d440B8n180Ca31g0B8n180Ca31g0B8n180Ca31g0B8zzw0C9q2s0B8zzw0C9q2s0B8zzw" ++
      "0Ca31g0B8n180Ca31g0B8n180Ca31g0B8zzw0C9q2s0B8zzw0C9q2s0B8zzw0C9q2s0B8zzw0Ca31g0", none⟩,
  ⟨"America/Bahia", [-9244, -10800, -7200],
    "B1nhtr4sC99kaf8B9a9c0C9io40B99980C8p65g0B6zuo0Cbs2o0B67zw0Ccjxg0B69uk0Ccjxg0B4ml80C5mf440B4" ++
      "9mk0Chaas0B316k0Ccls40B4ml80Ccls40B66580Ccls40B67zw0C981s40B6u7w0Cbiw40B5rbw0Cd0lg0B5ed80" ++
      "Ccyqs0B5ed80Cdbpg0B64ak0Ccyqs0B64ak0Ccls40B5rbw0Cdbpg0B51ek0Cdbpg0B6h980Cc8tg0B6h980Cc8tg" ++
      "0B64ak0Cc8tg0B6u7w0Cbxpg0B7iak0Cbiw40B6u7w0Cbiw40B7k580Cbiw40B6u7w0Cc8tg0B6h980Cdbpg0B5ed" ++
      "80C4irc40B6u7w0", none⟩,
  ⟨"America/Bahia_Banderas", [-25260, -25200, -21600, -18000],
    "B1ro57g0C2u5s00B1si580C8jhg0B7x3w0C9eys0B591h80Cs5qoc0Bafuk0C8a840Bafuk0C8a840Bafuk0C8a840B" ++
      "ast80C7x9g0Bast80C9q2s0B7k580C9q2s0Bafuk0C8a840Bafuk0C8a840Bast80C7x9g0Bast80C7x9g0Bast80" ++
      "C7x9g0Bast80C8a840Bafuk0C8a840Bafuk0D8a840Casqg0D7x9g0Cast80D7x9g0Cast80D8a840Cafuk0D8a84" ++
      "0Cafuk0D8a840Cafuk0D8a840Cast80D7x9g0Cast80D7x9g0Cast80D8a840Cafuk0D8a840Cafuk0D8a840Cast" ++
      "80D7x9g0Cast80", none⟩,
  ⟨"America/Barbados", [-14309, -14400, -10800, -12600],
    "B1m9qtphCfzq06jB6w840Ccjrw0B6hes0Db7mk0B7ves0Ch3dpc0B5rbw0Ca31g0B8n180Ca31g0B8n180Cag040B84" ++
      "ik0", none⟩,
  ⟨"America/Belem", [-11636, -10800, -7200],
    "B1nhtsz8C99k8ksB9a9c0C9io40B99980C8p65g0B6zuo0Cbs2o0B67zw0Ccjxg0B69uk0Ccjxg0B4ml80C5mf440B4" ++
      "9mk0Chaas0B316k0Ccls40B4ml80Ccls40B66580Ccls40B67zw0C981s40B6u7w0Cbiw40B5rbw0Cd0lg0B5ed80",
    none⟩,
  ⟨"America/Belize", [-21168, -21600, -19800, -18000],
    "B1mkwto0C3edkc0B6ham0Cc8s20B6u9a0Cbvte0B6u9a0Cbvte0B6u9a0Cc8s20B6ham0Cc8s20B6ham0Cc8s20B6u9" ++
      "a0Cbvte0B6u9a0Cbvte0B6u9a0Cbvte0B6u9a0Cc8s20B6ham0Cc8s20B6ham0Cc8s20B6u9a0Cbvte0B6u9a0Cbv" ++
      "te0B6u9a0Cc8s20B6ham0Cc8s20B6ham0Cc8s20B6ham0Cc8s20B6u9a0Cbvte0B6u9a0Cbvte0B6u9a0Cc8s20B6" ++
      "ham0Cc8s20B6ham0Cc8s20B6u9a0D6uc20B1t67w0Cxulg0B6u9a0Cbvte0B6u9a0Cbvte0B6u9a0Cc8s20B6ham0" ++
      "Cc8s20B6ham0Cc8s20B6u9a0Cbvte0B6u9a0Cbvte0B6u9a0Cbvte0B6u9a0Cc8s20B6ham0Cc8s20B6ham0Cc8s2" ++
      "0B6u9a0Cbvte0B6u9a0Cbvte0B6u9a0Cc8s20B6ham0Cc8s20B6ham0Cc8s20B6ham0Cc8s20B6u9a0Cbvte0B6u9" ++
      "a0Cbvte0B6u9a0Cc8s20B6ham0D319de0B3e580D4mcys0B2vmk0", none⟩,
  ⟨"America/Boa_Vista", [-14560, -14400, -10800],
    "B1nhtv8gC99k93kB9a9c0C9io40B99980C8p65g0B6zuo0Cbs2o0B67zw0Ccjxg0B69uk0Ccjxg0B4ml80C5mf440B4" ++
      "9mk0Chaas0B316k0Ccls40B4ml80Ccls40B66580Ccls40B67zw0C981s40B6u7w0Cbiw40B5rbw0Cd0lg0B5ed80" ++
      "C62xk40B7k580Cbiw40Bcvw0", none⟩,
  ⟨"America/Bogota", [-17776, -18000, -14400], "B1nyln1sC14f1hi8Beefw0", none⟩,
  ⟨"America/Boise", [-27889, -28800, -25200, -21600],
    "B17ryvk0Chxltk0Bast80C7x9g0Bast80C1um840D9s7jw0C1wd180Db9gdg0C9cyk0D9d440C9cyk0D9d440C9cyk0" ++
      "D9d440C9cyk0D9d440C9px80D9d440C9cyk0D9d440C9cyk0D51k40Cdoik0D64g40Cclmk0D9d440C9px80D905g" ++
      "0C9px80D9d440C9cyk0D9d440C9cyk0D9d440C9cyk0D9d440C9cyk0D9d440C9px80D905g0C9px80D9d440C9cy" ++
      "k0D9d440C9cyk0D9d440C9cyk0D8a840Cafuk0D8a840Cast80D7x9g0Cast80D7x9g0Cast80D8a840Cafuk0D8a" ++
      "840Cafuk0D8a840Cast80D7x9g0Cast80D7x9g0Cast80D8a840Cafuk0D8a840Cafuk0D8a840Cafuk0D8a840Ca" ++
      "st80D7x9g0Cast80D7x9g0Cast80D8a840Cafuk0D8a840Cafuk0D8a840Cast80D7x9g0Cast80D7x9g0Cast80",
    some (northAmerican 2007 (-25200))⟩,
  ⟨"America/Cambridge_Bay", [0, -25200, -21600, -18000],
    "B1qmiyo0Cbjeec0B1wd180Cdvfpg0B9cyk0C9d440B9cyk0C9d440B9cyk0C9d440B9cyk0C9d440B9px80C905g0B9" ++
      "px80C9d440B9cyk0C9d440B9cyk0C9d440B9cyk0C9d440B9cyk0C9d440B9px80C905g0B9px80C9d440B9cyk0C" ++
      "9d440B9cyk0C9d440B9cyk0C8a840Bafuk0C8a840Bast80C7x9g0Bast80C7x9g0Bast80C8a840Bafuk0C8a840" ++
      "Bafuk0C8a840Bast80C7x9g0Bast80C7x9g0Bast80C8a840Bafuk0C8a840Bafuk0C8a840Bafuk0C8a840Dipzw" ++
      "0Cb5mc0Bidcc0C8a840Bafuk0C8a840Bafuk0C8a840Bast80C7x9g0Bast80C7x9g0Bast80",
    some (northAmerican 2007 (-25200))⟩,
  ⟨"America/Campo_Grande", [-13108, -14400, -10800],
    "B1nhtu44C99ka7wB9a9c0C9io40B99980C8p65g0B6zuo0Cbs2o0B67zw0Ccjxg0B69uk0Ccjxg0B4ml80C5mf440B4" ++
      "9mk0Chaas0B316k0Ccls40B4ml80Ccls40B66580Ccls40B67zw0C981s40B6u7w0Cbiw40B5rbw0Cd0lg0B5ed80" ++
      "Ccyqs0B5ed80Cdbpg0B64ak0Ccyqs0B64ak0Ccls40B5rbw0Cdbpg0B51ek0Cdbpg0B6h980Cc8tg0B6h980Cc8tg" ++
      "0B64ak0Cc8tg0B6u7w0Cbxpg0B7iak0Cbiw40B6u7w0Cbiw40B7k580Cbiw40B6u7w0Cc8tg0B6h980Cdbpg0B5ed" ++
      "80Ccls40B64ak0Cdfes0B5nmk0Cc8tg0B6h980Cdbpg0B5rbw0Cbvus0B6h980Ccls40B64ak0Ccls40B6h980Cc8" ++
      "tg0B6h980Cc8tg0B6u7w0Cc8tg0B64ak0Ccls40B64ak0Ccls40B6h980Cc8tg0B6h980Cc8tg0B6h980Cc8tg0B6" ++
      "h980Cdbpg0B5ed80",
    none⟩,
  ⟨"America/Cancun", [-20824, -21600, -18000, -14400],
    "B1ro54o0Cvb0dk0Bj8d00C6x2wc0Bafuk0C8a840Dipzw0C64ak0B4bms0C8a840Bast80C7x9g0Bast80C9q2s0B7k" ++
      "580C9q2s0Bafuk0C8a840Bafuk0C8a840Bast80C7x9g0Bast80C7x9g0Bast80C7x9g0Bast80C8a840Bafuk0C8" ++
      "a840Bafuk0C8a840Bast80C7x9g0Bast80C7x9g0Bast80C8a840Bafuk0C8a840Bafuk0C51k40", none⟩,
  ⟨"America/Caracas", [-16064, -16060, -16200, -14400], "B1ayyf28CbjfjzwDrlo83wCmeoxm0D4dps00",
    none⟩,
  ⟨"America/Cayenne", [-12560, -14400, -10800], "B1m6rdowCtcw6r4", none⟩,
  ⟨"America/Chicago", [-21036, -21600, -18000],
    "B17ryq00Chxltk0Bast80C7x9g0Bast80Cbvus0B776k0C7kas0Bb5rw0C9d440B7k580Cb5xg0B7x3w0Casys0B7x3" ++
      "w0Casys0B7x3w0Casys0B7x3w0Casys0B7x3w0Cb5xg0B7x3w0Casys0B7x3w0Casys0B7x3w0Casys0B7x3w0Cas" ++
      "ys0B7x3w0Cb5xg0B7k580Cb5xg0B7x3w0Casys0B7x3w0C7x9g0Bdbjw0C8a840B7x3w0Casys0B7x3w0Cb5xg0B7" ++
      "k580Cb5xg0B7x3w0Casys0B7x3w0C6w840B1wd180Casys0B7x3w0Casys0B7x3w0Casys0B7x3w0Casys0B7x3w0" ++
      "Cb5xg0B7k580Cb5xg0B7x3w0Casys0B7x3w0Casys0B7x3w0Casys0B7x3w0Casys0B9px80C9d440B9cyk0C9d44" ++
      "0B9cyk0C9d440B9cyk0C9d440B9cyk0C9d440B9px80C9d440B9cyk0C9d440B9cyk0C9d440B9cyk0C9d440B9cy" ++
      "k0C9d440B9px80C905g0B9px80C9d440B9cyk0C9d440B9cyk0C9d440B9cyk0C9d440B9cyk0C9d440B9px80C9d" ++
      "440B9cyk0C9d440B9cyk0C3lpg0Bf4d80C64g40Bclmk0C9d440B9px80C905g0B9px80C9d440B9cyk0C9d440B9" ++
      "cyk0C9d440B9cyk0C9d440B9cyk0C9d440B9px80C905g0B9px80C9d440B9cyk0C9d440B9cyk0C9d440B9cyk0C" ++
      "8a840Bafuk0C8a840Bast80C7x9g0Bast80C7x9g0Bast80C8a840Bafuk0C8a840Bafuk0C8a840Bast80C7x9g0" ++
      "Bast80C7x9g0Bast80C8a840Bafuk0C8a840Bafuk0C8a840Bafuk0C8a840Bast80C7x9g0Bast80C7x9g0Bast8" ++
      "0C8a840Bafuk0C8a840Bafuk0C8a840Bast80C7x9g0Bast80C7x9g0Bast80",
    some (northAmerican 2007 (-21600))⟩,
  ⟨"America/Chihuahua", [-25460, -25200, -21600, -18000],
    "B1ro57g0C2u5s00B1si580C8jhg0B7x3w0C9eys0Dxes2s0Cafuk0D8a840Cafuk0Biq5g0C8a840Bast80C7x9g0Ba" ++
      "st80C9q2s0B7k580C9q2s0Bafuk0C8a840Bafuk0C8a840Bast80C7x9g0Bast80C7x9g0Bast80C7x9g0Bast80C" ++
      "8a840Bafuk0C8a840Bafuk0C8a840Bast80C7x9g0Bast80C7x9g0Bast80C8a840Bafuk0C8a840Bafuk0C8a840" ++
      "Bafuk0C8a840Bast80C7x9g0Bast80C7x9g0Bast80C8a840Bafuk0C8a840Bafuk0C8a840Bast80C7x9g0", none⟩,
  ⟨"America/Ciudad_Juarez", [-25556, -25200, -21600, -18000],
    "B1ro57g0C2u5s00B1si580C8jhg0B7x3w0C9eys0Dxes2s0Cafuk0D8a840Cafuk0Biq5g0C8a840Bast80C7x9g0Ba" ++
      "st80C9q2s0B7k580C9q2s0Bafuk0C8a840Bafuk0C8a840Bast80C7x9g0Bast80C7x9g0Bast80C7x9g0Bast80C" ++
      "8a840Bafuk0C8a840Bafuk0C77c40Bc8nw0C6hes0Bc8nw0C6hes0Bc8nw0C6hes0Bc8nw0C6hes0Bc8nw0C6hes0" ++
      "Bc8nw0C6udg0Bc8nw0C6hes0Bc8nw0C6hes0Bc8nw0C6hes0Bc8nw0C6hes0Bc8nw0C6udg0Bc8nw0C6hes0Bdgyc" ++
      "0",
    some (northAmerican 2023 (-25200))⟩,
  ⟨"America/Costa_Rica", [-20173, -21600, -18000],
    "B1r633kdCubtl3nB51ek0Cdoo40B51ek0C5jso40B8drw0Cacas0B2xh80", none⟩,
  ⟨"America/Coyhaique", [-17296, -16965, -18000, -14400, -10800],
    "B1ayyg0gCag6l2tB3dlssrD157b79Bf4e0rD49hzb9Caye0rD7ves0Cawik0D7ves0Cawik0D7ves0Cawik0D7ves0C" ++
      "ayd80D7ves0C534ik0D351g0C2fnh80D2mg00Eb73400D7k580Ec8tg0D6h980Ea31g0D7x3w0Easys0D7x3w0Eb5" ++
      "xg0D7k580Eag040D8a2k0Eb5xg0D7k580Eb5xg0D7x3w0Easys0D7x3w0Easys0D7x3w0Eb5xg0D7k580Eb5xg0D7" ++
      "k580Eb5xg0D7x3w0Easys0D7x3w0Easys0D7x3w0Easys0D7x3w0Eb5xg0D7k580Eb5xg0D7k580Eb5xg0D9cyk0E" ++
      "9d440D7x3w0Easys0D7x3w0Eb5xg0D7k580E9q2s0D8zzw0Eb5xg0D7x3w0Easys0D7x3w0Easys0D7x3w0Easys0" ++
      "D7x3w0Eb5xg0D7k580Eb5xg0D8n180Ea31g0D7x3w0Ea31g0D9px80E9q2s0D7x3w0Eb5xg0D7k580Eb5xg0D7k58" ++
      "0Eb5xg0D7k580Eb5xg0D7x3w0Easys0D7x3w0Easys0D7x3w0Eb5xg0D7k580Eb5xg0D8n180Ea31g0D7x3w0Easy" ++
      "s0D8zzw0E9q2s0Dast80E5eis0Dcyl80E6hes0Dc8nw0E6udg0Dbvp80E6udg0Dvonw0E4olg0De1h80E4olg0De1" ++
      "h80E4olg0Dc8nw0E7x9g0Dast80E7x9g0Dast80E7x9g0Dast80E8a840Dafuk0E7x9g0Db5rw0E7x9g0", none⟩,
  ⟨"America/Cuiaba", [-13460, -14400, -10800],
    "B1nhtudwC99k9y4B9a9c0C9io40B99980C8p65g0B6zuo0Cbs2o0B67zw0Ccjxg0B69uk0Ccjxg0B4ml80C5mf440B4" ++
      "9mk0Chaas0B316k0Ccls40B4ml80Ccls40B66580Ccls40B67zw0C981s40B6u7w0Cbiw40B5rbw0Cd0lg0B5ed80" ++
      "Ccyqs0B5ed80Cdbpg0B64ak0Ccyqs0B64ak0Ccls40B5rbw0Cdbpg0B51ek0Cdbpg0B6h980Cc8tg0B6h980Cc8tg" ++
      "0B64ak0Cc8tg0B6u7w0Cbxpg0B7iak0Cbiw40B6u7w0Cbiw40B7k580Cbiw40B6u7w0Cc8tg0B6h980Cdbpg0B5ed" ++
      "80Cw5hg0B5nmk0Cc8tg0B6h980Cdbpg0B5rbw0Cbvus0B6h980Ccls40B64ak0Ccls40B6h980Cc8tg0B6h980Cc8" ++
      "tg0B6u7w0Cc8tg0B64ak0Ccls40B64ak0Ccls40B6h980Cc8tg0B6h980Cc8tg0B6h980Cc8tg0B6h980Cdbpg0B5" ++
      "ed80", none⟩,
  ⟨"America/Danmarkshavn", [-4480, -10800, -7200, 0],
    "B1ou4jggCx8nx3kB8zrk0C9d1c0B9d1c0C9d1c0B9d1c0C9d1c0B9d1c0C9d1c0B9q000C9d1c0B9d1c0C9d1c0B9d1" ++
      "c0C9d1c0B9d1c0C9d1c0B9d1c0C9d1c0B9d1c0C9d1c0B9q000C9d1c0B9d1c0C9d1c0B9d1c0C9d1c0B9d1c0C9d" ++
      "1c0B9d1c0C9d1c0B9d1c0D53hk0", none⟩,
  ⟨"America/Dawson", [-33460, -32400, -28800, -25200],
    "B1gipj5gC97l62kBa2vw0Casys0B882c0Cbmiwc0B1wd180Da7n3w0B9q000C465k00D3e2is0C9cyk0D9d440C9cyk" ++
      "0D9d440C9px80D905g0C9px80D9d440C9cyk0D9d440C9cyk0D9d440C9cyk0D8a840Cafuk0D8a840Cast80D7x9" ++
      "g0Cast80D7x9g0Cast80D8a840Cafuk0D8a840Cafuk0D8a840Cast80D7x9g0Cast80D7x9g0Cast80D8a840Caf" ++
      "uk0D8a840Cafuk0D8a840Cafuk0D8a840Cast80D7x9g0Cast80D7x9g0Cast80D8a840Cafuk0D8a840Cafuk0D8" ++
      "a840Cast80D7x9g0Cast80D7x9g0Cast80D6udg0Cc8nw0D6hes0Cc8nw0D6hes0Cc8nw0D6udg0Cc8nw0D6hes0C" ++
      "c8nw0D6hes0Cc8nw0D6hes0Cc8nw0D6hes0Cc8nw0D6hes0Cc8nw0D6udg0Cc8nw0D6hes0Cc8nw0D6hes0Cc8nw0" ++
      "D6hes0Cc8nw0D6hes0", none⟩,
  ⟨"America/Dawson_Creek", [-28856, -28800, -25200],
    "B17u7flkChw36ugBa2vw0Cc5jxg0B1wd180Ctj1g0B7x3w0Casys0B7x3w0Casys0B7x3w0Cb5xg0B7k580Cb5xg0B7" ++
      "x3w0Casys0B7x3w0Casys0B7x3w0Casys0B7x3w0Casys0B7x3w0Cb5xg0B7x3w0Casys0B7x3w0Casys0B7x3w0C" ++
      "asys0B7x3w0Casys0B7x3w0Cb5xg0B7k580Cb5xg0B9cyk0C9d440B9cyk0C9d440B9cyk0C9d440B9px80C905g0" ++
      "B9px80C9d440B9cyk0C9d440B9cyk0C9d440B9cyk0C9d440B9cyk0C9d440B9px80C9d440", none⟩,
  ⟨"America/Denver", [-25196, -25200, -21600],
    "B17ryss0Chxltk0Bast80C7x9g0Bast80C7x9g0Bb5rw0C7kas0B2vmk0Cataw40B1wd180Ca7n9g0B9px80C905g0B" ++
      "9px80C9d440B9cyk0C9d440B9cyk0C9d440B9cyk0C9d440B9cyk0C9d440B9px80C9d440B9cyk0C9d440B9cyk0" ++
      "C3lpg0Bf4d80C64g40Bclmk0C9d440B9px80C905g0B9px80C9d440B9cyk0C9d440B9cyk0C9d440B9cyk0C9d44" ++
      "0B9cyk0C9d440B9px80C905g0B9px80C9d440B9cyk0C9d440B9cyk0C9d440B9cyk0C8a840Bafuk0C8a840Bast" ++
      "80C7x9g0Bast80C7x9g0Bast80C8a840Bafuk0C8a840Bafuk0C8a840Bast80C7x9g0Bast80C7x9g0Bast80C8a" ++
      "840Bafuk0C8a840Bafuk0C8a840Bafuk0C8a840Bast80C7x9g0Bast80C7x9g0Bast80C8a840Bafuk0C8a840Ba" ++
      "fuk0C8a840Bast80C7x9g0Bast80C7x9g0Bast80", some (northAmerican 2007 (-25200))⟩,
  ⟨"America/Detroit", [-19931, -21600, -18000, -14400],
    "B1isqy1nC5eraudDdyeyk0C1wd180D1c9440C7x3w0D9rlbxoC71s2cD9d440C9cyk0D2cmdg0C9cyk0D3lpg0Cf4d8" ++
      "0D9d440C9cyk0D9d440C9px80D905g0C9px80D9d440C9cyk0D9d440C9cyk0D9d440C9cyk0D9d440C9cyk0D9d4" ++
      "40C9px80D905g0C9px80D9d440C9cyk0D9d440C9cyk0D9d440C9cyk0D8a840Cafuk0D8a840Cast80D7x9g0Cas" ++
      "t80D7x9g0Cast80D8a840Cafuk0D8a840Cafuk0D8a840Cast80D7x9g0Cast80D7x9g0Cast80D8a840Cafuk0D8" ++
      "a840Cafuk0D8a840Cafuk0D8a840Cast80D7x9g0Cast80D7x9g0Cast80D8a840Cafuk0D8a840Cafuk0D8a840C" ++
      "ast80D7x9g0Cast80D7x9g0Cast80", some (northAmerican 2007 (-18000))⟩]

def americaB : List ZoneRow := [
  ⟨"America/Edmonton", [-27232, -25200, -21600],
    "B1jo110gC629inkBa2vw0C8n6s0B29ek0Ch6lg0B9px80C905g0B7x3w0Cb5xg0B7k580Cb5xg0B7x3w0C9l0g40B1w" ++
      "d180Ctj1g0B7x3w0Cctzk40B9cyk0C9d440B9cyk0C9d440B9cyk0C9d440B9cyk0C9d440B9px80C905g0B9px80" ++
      "C9d440B9cyk0C9d440B9cyk0C9d440B9cyk0C9d440B9cyk0C9d440B9px80C905g0B9px80C9d440B9cyk0C9d44" ++
      "0B9cyk0C9d440B9cyk0C8a840Bafuk0C8a840Bast80C7x9g0Bast80C7x9g0Bast80C8a840Bafuk0C8a840Bafu" ++
      "k0C8a840Bast80C7x9g0Bast80C7x9g0Bast80C8a840Bafuk0C8a840Bafuk0C8a840Bafuk0C8a840Bast80C7x" ++
      "9g0Bast80C7x9g0Bast80C8a840Bafuk0C8a840Bafuk0C8a840Bast80C7x9g0Bast80C7x9g0Bast80",
    some (northAmerican 2007 (-25200))⟩,
  ⟨"America/Eirunepe", [-16768, -18000, -14400],
    "B1nhtwxsC99ka68B9a9c0C9io40B99980C8p65g0B6zuo0Cbs2o0B67zw0Ccjxg0B69uk0Ccjxg0B4ml80C5mf440B4" ++
      "9mk0Chaas0B316k0Ccls40B4ml80Ccls40B66580Ccls40B67zw0C981s40B6u7w0Cbiw40B5rbw0Cd0lg0B5ed80" ++
      "C2yy2s0B6h980C7hg2s0B2t2t80", none⟩,
  ⟨"America/El_Salvador", [-21408, -21600, -18000], "B1r5d76oCymao5cB7k580Cb5xg0B7k580", none⟩,
  ⟨"America/Fort_Nelson", [-29447, -28800, -25200],
    "B17u7g1zChw36e1Ba2vw0Cc5jxg0B1wd180Ctj1g0B7x3w0Casys0B7x3w0Casys0B7x3w0Cb5xg0B7k580Cb5xg0B7" ++
      "x3w0Casys0B7x3w0Casys0B7x3w0Casys0B7x3w0Casys0B7x3w0Cb5xg0B7x3w0Casys0B7x3w0Casys0B7x3w0C" ++
      "asys0B7x3w0Casys0B7x3w0Cb5xg0B7k580Cb5xg0B9cyk0C9d440B9cyk0C9d440B9cyk0C9d440B9px80C905g0" ++
      "B9px80C9d440B9cyk0C9d440B9cyk0C9d440B9cyk0C9d440B9cyk0C9d440B9px80C9d440B9cyk0C9d440B9cyk" ++
      "0C9d440B9cyk0C9d440B9cyk0C9d440B9px80C905g0B9px80C9d440B9cyk0C9d440B9cyk0C9d440B9cyk0C9d4" ++
      "40B9cyk0C9d440B9px80C905g0B9px80C9d440B9cyk0C9d440B9cyk0C9d440B9cyk0C8a840Bafuk0C8a840Bas" ++
      "t80C7x9g0Bast80C7x9g0Bast80C8a840Bafuk0C8a840Bafuk0C8a840Bast80C7x9g0Bast80C7x9g0Bast80C8" ++
      "a840Bafuk0C8a840Bafuk0C8a840Bafuk0C8a840Bast80C7x9g0Bast80C7x9g0Bast80C8a840Bafuk0C8a840B" ++
      "afuk0C8a840Bast80C7x9g0Bast80C7x9g0Bast80C6udg0Bc8nw0C6hes0Bc8nw0C6hes0Bc8nw0C6udg0Bc8nw0" ++
      "C6hes0Bc8nw0C6hes0Bc8nw0C6hes0Bc8nw0C6hes0Bc8nw0C6hes0", none⟩,
  ⟨"America/Fortaleza", [-9240, -10800, -7200],
    "B1nhtr4oC99kafcB9a9c0C9io40B99980C8p65g0B6zuo0Cbs2o0B67zw0Ccjxg0B69uk0Ccjxg0B4ml80C5mf440B4" ++
      "9mk0Chaas0B316k0Ccls40B4ml80Ccls40B66580Ccls40B67zw0C981s40B6u7w0Cbiw40B5rbw0Cd0lg0B5ed80" ++
      "Ccyqs0B5ed80Cdbpg0B64ak0C514g40B7k580Cbiw40Bpuk0Cid6s0B6h980", none⟩,
  ⟨"America/Glace_Bay", [-14388, -14400, -10800],
    "B1hgur3oC89fk8cBa2vw0Cc5jxg0B1wd180C3y8g40B7x3w0C9pa5g0B9cyk0C9d440B9cyk0C9d440B9cyk0C9d440" ++
      "B9cyk0C9d440B9px80C905g0B9px80C9d440B9cyk0C9d440B9cyk0C9d440B9cyk0C9d440B9cyk0C9d440B9px8" ++
      "0C905g0B9px80C9d440B9cyk0C9d440B9cyk0C9d440B9cyk0C8a840Bafuk0C8a840Bast80C7x9g0Bast80C7x9" ++
      "g0Bast80C8a840Bafuk0C8a840Bafuk0C8a840Bast80C7x9g0Bast80C7x9g0Bast80C8a840Bafuk0C8a840Baf" ++
      "uk0C8a840Bafuk0C8a840Bast80C7x9g0Bast80C7x9g0Bast80C8a840Bafuk0C8a840Bafuk0C8a840Bast80C7" ++
      "x9g0Bast80C7x9g0Bast80", some (northAmerican 2007 (-14400))⟩,
  ⟨"America/Goose_Bay", [-14500, -12652, -9052, -12600, -9000, -14400, -10800, -7200],
    "B17u74isChw35goBa2vw0D8kjbw0EkzjykD7k580Eb5xg0D7k580Eb5xg0D7k580Ebiw40D776k0Ebiw40D7k580Eb5" ++
      "xg0D7k580Eb5xg0D1roo40Ebiw40D7k580Eb5xg0D7k580Eb5xg0D7k580Eb5xg0D7k580Ebiw40D7k580Eag040D" ++
      "7x3w0Easys0D7x3w0Easys0D7x3w0Easys0D7x3w0Easys0D7x3w0Eb5xg0D7x3w0Easys0D7x3w0Easys0D7x3w0" ++
      "Easys0D7x3w0Easys0D9px80E9d440D9cyk0E9d440D9cyk0E9d440D9cyk0E9d440D9cyk0E9d440D9px80F6y2s" ++
      "0G22420F9px80G9d440F9cyk0G9d440F9cyk0G9d440F9cyk0G9d440F9cyk0G9d440F9px80G9d440F9cyk0G9d4" ++
      "40F9cyk0G9d440F9cyk0G9d440F9cyk0G9d440F9px80G905g0F9px80G9d440F9cyk0G9d440F9cyk0G9d440F9c" ++
      "yk0G9d440F9cyk0G9d440F9px80G905g0F9px80G9d440F9cyk0G9d440F9cyk0G9d440F9cyk0G8a2loFafuk0H8" ++
      "a840Fasqg0G7xc80Fast80G7x9g0Fast80G8a840Fafuk0G8a840Fafuk0G8a840Fast80G7x9g0Fast80G7x9g0F" ++
      "ast80G8a840Fafuk0G8a840Fafuk0G8a840Fafuk0G8a840Fast80G7x9g0Fast80G7x9g0Fast80G8a840Fafuk0" ++
      "G8a840Fafuk0G8a840Fast80G7x9g0Fast80G7x9g0Fast80G6udg0Fc8nw0G6hes0Fc8nw0G6hes0Fc8nw0G6udg" ++
      "0Fc8nw0G6hes0Fc8tec",
    some (northAmerican 2012 (-14400))⟩,
  ⟨"America/Grand_Turk", [-17072, -18430, -18000, -14400],
    "B1ayyfu8Cbiv7pqDz3brw2C9cyk0D9d440C9cyk0D9d440C9cyk0D9d440C9px80D905g0C9px80D9d440C9cyk0D9d" ++
      "440C9cyk0D9d440C9cyk0D8a840Cafuk0D8a840Cast80D7x9g0Cast80D7x9g0Cast80D8a840Cafuk0D8a840Ca" ++
      "fuk0D8a840Cast80D7x9g0Cast80D7x9g0Cast80D8a840Cafuk0D8a840Cafuk0D8a840Cafuk0D8a840Cast80D" ++
      "7x9g0Cast80D7x9g0Cast80D8a840Cafuk0D8a840Cafuk0D8a840Cast80D7x9g0Cast80D7x9g0Cast80D6udg0" ++
      "Cc8nw0D6hes0Cc8nw0D6hes0Cc8nw0D6udg0Cc8nw0D6hes0Cc8nw0D6hes0Cc8nw0D6hes0Cc8nw0D6hes0Cc8nw" ++
      "0D6hes0C1wruk0", some (northAmerican 2019 (-18000))⟩,
  ⟨"America/Guatemala", [-21724, -21600, -18000],
    "B1pz8jfgCss0akkB4ofw0C4tidg0B6djw0C3wwas0B8n180C7n5ms0B7x3w0", none⟩,
  ⟨"America/Guayaquil", [-19160, -18840, -18000, -14400], "B1ayyhg8Cle9mf4Dwb620oC3jp80", none⟩,
  ⟨"America/Guyana", [-13959, -14400, -13500, -10800], "B1m8ctfrC1va8c9Dvj6nb0B8p0jd0", none⟩,
  ⟨"America/Halifax", [-15264, -14400, -10800],
    "B1hgurs0C777go0B9et80Cst9o0Ba2vw0Cssyk0B5rbw0Ccv1g0B69uk0Cc6ys0B6kyk0Cci2s0B67zw0Cci2s0B6w2" ++
      "k0Cbu040B7lzw0Cbu040B66580Cbu040B7lzw0Cbu040B64ak0Ccls40B5v180Ccv1g0B6j3w0Cc6ys0B79180Cb4" ++
      "2s0B7lzw0Cb42s0B7yyk0Cbu040B64ak0Cdbpg0B66580Ccls40B5ed80Cbu040B7lzw0Cb42s0B7lzw0Ccjxg0B6" ++
      "6580Cbh1g0B7lzw0Cb42s0B7lzw0C6uj00B1wd180Casys0B7x3w0Casys0B7x3w0Casys0B7x3w0Casys0B7x3w0" ++
      "Ctw040B7x3w0Casys0B7x3w0Casys0B7x3w0Casys0B7x3w0Ctw040B7x3w0Casys0B7x3w0Casys0B7x3w0Casys" ++
      "0B7x3w0C1cm2s0B9cyk0C9d440B9cyk0C9d440B9cyk0C9d440B9px80C905g0B9px80C9d440B9cyk0C9d440B9c" ++
      "yk0C9d440B9cyk0C9d440B9cyk0C9d440B9px80C9d440B9cyk0C9d440B9cyk0C9d440B9cyk0C9d440B9cyk0C9" ++
      "d440B9px80C905g0B9px80C9d440B9cyk0C9d440B9cyk0C9d440B9cyk0C9d440B9cyk0C9d440B9px80C905g0B" ++
      "9px80C9d440B9cyk0C9d440B9cyk0C9d440B9cyk0C8a840Bafuk0C8a840Bast80C7x9g0Bast80C7x9g0Bast80" ++
      "C8a840Bafuk0C8a840Bafuk0C8a840Bast80C7x9g0Bast80C7x9g0Bast80C8a840Bafuk0C8a840Bafuk0C8a84" ++
      "0Bafuk0C8a840Bast80C7x9g0Bast80C7x9g0Bast80C8a840Bafuk0C8a840Bafuk0C8a840Bast80C7x9g0Bast" ++
      "80C7x9g0Bast80",
    some (northAmerican 2007 (-14400))⟩,
  ⟨"America/Havana", [-19768, -19776, -18000, -14400],
    "B1ayyhx4Cijto08D1icfyoC69uk0D62s040C4ofw0De1ms0C51ek0De1ms0C4ofw0D1fhs40C4ofw0De1ms0C4ofw0D" ++
      "9s9k40C67zw0Dcedg0C6h980D9o840C7yyk0Db5xg0C7k580Dbvus0C9cyk0D9d440C9cyk0D9d440C9px80D9d44" ++
      "0C8a2k0Dag040C8bx80Dae5g0C8drw0Dacas0C9cyk0D9d440C9px80D905g0C9px80D9q2s0C7x3w0D8a840Cast" ++
      "80D7x9g0Cast80Dasys0C7x3w0Dasys0C7x3w0Dasys0C7x3w0Dasys0C8a2k0Dag040C8a2k0D7x9g0Cast80D7x" ++
      "9g0Cast80D8a840Cafuk0D8a840Cafuk0D905g0Ca2vw0D905g0C9q000D902o0C9q000D902o0C9q000D902o0C9" ++
      "q000D902o0C9q000D9d1c0C9d1c0D9d1c0C9q000D8n400Casw00D7x6o0Cb5uo0D7x6o0Casw00D7x6o0Casw00D" ++
      "8a5c0Cafxc0D8a5c0Cafxc0D7x6o0C1cm000D6uao0Cbvs00D779c0Cbitc0D6uao0Cbvs00D779c0Cbvs00D779c" ++
      "0Cc8qo0D779c0Cb5uo0",
    some ⟨2013, ⟨3, 0, 8, 18000, -14400⟩, ⟨11, 0, 1, 18000, -18000⟩⟩⟩,
  ⟨"America/Hermosillo", [-26632, -25200, -21600],
    "B1ro57g0C2u5s00B1si580C8jhg0B7x3w0C9eys0B591h80Cs5qoc0Bafuk0C8a840Bafuk0C8a840Bafuk0", none⟩,
  ⟨"America/Indiana/Indianapolis", [-20678, -21600, -18000, -14400],
    "B17ryq00Chxltk0Bast80C7x9g0Bast80Cbaw840B51ek0C6w840B1wd180Casys0B7x3w0Casys0B7x3w0Casys0B7" ++
      "x3w0Casys0B7x3w0Cb5xg0B7k580Cb5xg0B7x3w0Casys0B7x3w0Casys0B7x3w0Casys0B7x3w0Casys0B19q7w0" ++
      "Casys0D5qonw0C9cyk0D9d440C9cyk0Dihslg0Cast80", some (northAmerican 2007 (-18000))⟩,
  ⟨"America/Indiana/Knox", [-20790, -21600, -18000],
    "B17ryq00Chxltk0Bast80C7x9g0Bast80Cbmtus0B1wd180Ctj1g0B7x3w0Casys0B7x3w0Casys0B7x3w0Cb5xg0B7" ++
      "k580Cb5xg0B7x3w0Casys0B7x3w0Casys0B7x3w0Casys0B7x3w0Casys0B9px80C9d440B9cyk0C9d440B7x3w0C" ++
      "asys0B7x3w0Casys0B9cyk0C9d440B9px80C9d440B9cyk0C9d440Bs3180C1twas0B9cyk0C9d440B9cyk0C9d44" ++
      "0B9cyk0C9d440B9cyk0C9d440B9px80C9d440B9cyk0C9d440B9cyk0C3lpg0Bf4d80C64g40Bclmk0C9d440B9px" ++
      "80C905g0B9px80C9d440B9cyk0C9d440B9cyk0C9d440B9cyk0C9d440B9cyk0C9d440B9px80C905g0B9px80C9d" ++
      "440B9cyk0C9d440B9cyk0C9d440B9cyk0C8a840Bafuk0C8a840Bast80C7x9g0Bast80C7x9g0Bast80C8a840B8" ++
      "4duk0",
    some (northAmerican 2007 (-21600))⟩,
  ⟨"America/Indiana/Marengo", [-20723, -21600, -18000, -14400],
    "B17ryq00Chxltk0Bast80C7x9g0Bast80Cbmtus0B1wd180C2wsas0B7x3w0C1c9440B7x3w0Casys0B7x3w0Cb5xg0" ++
      "B7x3w0Casys0B7x3w0Casys0B7x3w0Casys0B7x3w0Casys0B7x3w0Cb5xg0D465h80C9cyk0D9d440C9cyk0D9d4" ++
      "40C9px80D9d440C9cyk0D9d440C9cyk0Douis0Cclmk0Dfvt9g0Cast80",
    some (northAmerican 2007 (-18000))⟩,
  ⟨"America/Indiana/Petersburg", [-20947, -21600, -18000],
    "B17ryq00Chxltk0Bast80C7x9g0Bast80Cbmtus0B1wd180C501ek0B7kas0Cb5xg0B7x3w0Casys0B7x3w0Casys0B" ++
      "7x3w0Casys0B7x3w0Casys0B7x3w0Cb5xg0B9cyk0C9d440B9cyk0C9d440B9cyk0C9d440B9cyk0C9d440Bsfzw0" ++
      "C9d440B9cyk0C9d440B9cyk0C9d440B9cyk0C9d440B9cyk0C9d440B9px80C9d440B9cyk0C9d440B9cyk0C3lpg" ++
      "0Bf4d80C64g40Bclmk0C9d440B9px80C905g0Bfeivw0C6udg0", some (northAmerican 2008 (-18000))⟩,
  ⟨"America/Indiana/Tell_City", [-20823, -21600, -18000, -14400],
    "B17ryq00Chxltk0Bast80C7x9g0Bast80Cbmtus0B1wd180C501ek0B7kas0Cb5xg0B7x3w0Casys0B7x3w0Casys0B" ++
      "7x3w0Casys0B7x3w0Casys0B7x3w0Cb5xg0B9cyk0C9d440B9cyk0C9d440B9cyk0C9d440B1tw580C9d440B9cyk" ++
      "0D9d440C9cvs0D9d440C9cyk0Bislhg0", some (northAmerican 2007 (-21600))⟩,
  ⟨"America/Indiana/Vevay", [-20416, -21600, -18000, -14400],
    "B17ryq00Chxltk0Bast80C7x9g0Bast80Cbmtus0B1wd180C4gyis0D7txx80C9cyk0D9d440C9cyk0D9d440C9px80" ++
      "D9d440C9cyk0Dhfzhg0Cast80", some (northAmerican 2007 (-18000))⟩,
  ⟨"America/Indiana/Vincennes", [-21007, -21600, -18000, -14400],
    "B17ryq00Chxltk0Bast80C7x9g0Bast80Cbmtus0B1wd180Casys0B7x3w0C3fidg0B7x3w0Casys0B7x3w0Cb5rw0B" ++
      "7kas0Cb5xg0B7x3w0Casys0B7x3w0Casys0B7x3w0Casys0B7x3w0Casys0B9px80C9d440B7k580Cb5xg0B9cyk0" ++
      "C9d440B9cyk0C9d440D2lz980C9cyk0D9d440C9cyk0Bislhg0C6udg0",
    some (northAmerican 2008 (-18000))⟩,
  ⟨"America/Indiana/Winamac", [-20785, -21600, -18000, -14400],
    "B17ryq00Chxltk0Bast80C7x9g0Bast80Cbmtus0B1wd180Casys0B7x3w0Casys0B7x3w0Casys0B7x3w0Casys0B7" ++
      "x3w0Cb5xg0B7k580Cb5xg0B7x3w0Casys0B7x3w0Casys0B7x3w0Casys0B7x3w0Casys0B9px80C9d440B9cyk0C" ++
      "9d440B7x3w0Casys0B7x3w0Casys0B7x3w0Casys0B7x3w0Cb5xg0D465h80C9cyk0D9d440C9cyk0Bislhg0D6ud" ++
      "g0Cc8l40", some (northAmerican 2008 (-18000))⟩,
  ⟨"America/Inuvik", [0, -28800, -25200, -21600],
    "B27ul6o0Ca34zs0B9cyk0C9d440B9cyk0C9d440B9cyk0C9d440B9cyk0C9d440B9px80C905g0B9px80C9d440B9cy" ++
      "k0D9d440C9cvs0D9d440C9cyk0D9d440C9cyk0D9d440C9px80D905g0C9px80D9d440C9cyk0D9d440C9cyk0D9d" ++
      "440C9cyk0D8a840Cafuk0D8a840Cast80D7x9g0Cast80D7x9g0Cast80D8a840Cafuk0D8a840Cafuk0D8a840Ca" ++
      "st80D7x9g0Cast80D7x9g0Cast80D8a840Cafuk0D8a840Cafuk0D8a840Cafuk0D8a840Cast80D7x9g0Cast80D" ++
      "7x9g0Cast80D8a840Cafuk0D8a840Cafuk0D8a840Cast80D7x9g0Cast80D7x9g0Cast80",
    some (northAmerican 2007 (-25200))⟩,
  ⟨"America/Iqaluit", [0, -14400, -18000, -21600],
    "B22et1c0C1nh7c0Bdvfpg0C9cyk0B9d440C9cyk0B9d440C9cyk0B9d440C9cyk0B9d440C9px80B905g0C9px80B9d" ++
      "440C9cyk0B9d440C9cyk0B9d440C9cyk0B9d440C9cyk0B9d440C9px80B905g0C9px80B9d440C9cyk0B9d440C9" ++
      "cyk0B9d440C9cyk0B8a840Cafuk0B8a840Cast80B7x9g0Cast80B7x9g0Cast80B8a840Cafuk0B8a840Cafuk0B" ++
      "8a840Cast80B7x9g0Cast80B7x9g0Cast80B8a840Cafuk0B8a840Cafuk0B8a840Cafuk0B8a840Dast80C7xc80" ++
      "Bipzw0Cast80B8a840Cafuk0B8a840Cafuk0B8a840Cast80B7x9g0Cast80B7x9g0Cast80",
    some (northAmerican 2007 (-18000))⟩,
  ⟨"America/Jamaica", [-18430, -18000, -14400],
    "B1mhtnjyCwbl182Bf4d80C64g40Bclmk0C9d440B9px80C905g0B9px80C9d440B9cyk0C9d440B9cyk0C9d440B9cy" ++
      "k0C9d440B9cyk0C9d440B9px80C905g0B9px80", none⟩,
  ⟨"America/Juneau", [54139, -32261, -28800, -25200, -32400],
    "Bzdrlg1Ch4yu44Dln707vC1wd180Dcawis0C9cyk0D9d440C9cyk0D9d440C9px80D9d440C9cyk0D9d440C9cyk0D3" ++
      "lpg0Cf4d80D64g40Cclmk0D9d440C9px80D905g0C9px80D9d440C9cyk0D9d440C9cyk0Ds36s0C9cyk0D9d440C" ++
      "9px80D905g0E9px80C9d6w0E9cyk0C9d440E9cyk0C9d440E9cyk0C8a840Eafuk0C8a840East80C7x9g0East80" ++
      "C7x9g0East80C8a840Eafuk0C8a840Eafuk0C8a840East80C7x9g0East80C7x9g0East80C8a840Eafuk0C8a84" ++
      "0Eafuk0C8a840Eafuk0C8a840East80C7x9g0East80C7x9g0East80C8a840Eafuk0C8a840Eafuk0C8a840East" ++
      "80C7x9g0East80C7x9g0East80", some (northAmerican 2007 (-32400))⟩,
  ⟨"America/Kentucky/Louisville", [-20582, -21600, -18000, -14400],
    "B17ryq00Chxltk0Bast80C7x9g0Bast80Csg5g0B6bp80Ca98o40B7x3w0C6w840B1wd180Cast9oB1sw2cC21gis0B" ++
      "7k580Cb5xg0B7x3w0Casys0B7x3w0Casys0B7x3w0Casys0B7x3w0Casys0B7x3w0Cb5xg0B9cyk0C9d440B9cyk0" ++
      "C9d440B9cyk0C9d440B9cyk0C9d440B9px80C9d440D3nfek0C9cyk0D9d440C9cyk0D9d440C9cyk0D9d440C9px" ++
      "80D9d440C9cyk0D9d440C9cyk0Douis0Cclmk0D9d440C9px80D905g0C9px80D9d440C9cyk0D9d440C9cyk0D9d" ++
      "440C9cyk0D9d440C9cyk0D9d440C9px80D905g0C9px80D9d440C9cyk0D9d440C9cyk0D9d440C9cyk0D8a840Ca" ++
      "fuk0D8a840Cast80D7x9g0Cast80D7x9g0Cast80D8a840Cafuk0D8a840Cafuk0D8a840Cast80D7x9g0Cast80D" ++
      "7x9g0Cast80D8a840Cafuk0D8a840Cafuk0D8a840Cafuk0D8a840Cast80D7x9g0Cast80D7x9g0Cast80D8a840" ++
      "Cafuk0D8a840Cafuk0D8a840Cast80D7x9g0Cast80D7x9g0Cast80", some (northAmerican 2007 (-18000))⟩,
  ⟨"America/Kentucky/Monticello", [-20364, -21600, -18000, -14400],
    "B17ryq00Chxltk0Bast80C7x9g0Bast80Cbmtus0B1wd180Cbs6g40B9cyk0C9d440B9cyk0C9d440B9cyk0C9d440B" ++
      "9px80C9d440B9cyk0C9d440B9cyk0C3lpg0Bf4d80C64g40Bclmk0C9d440B9px80C905g0B9px80C9d440B9cyk0" ++
      "C9d440B9cyk0C9d440B9cyk0C9d440B9cyk0C9d440B9px80C905g0B9px80C9d440B9cyk0C9d440B9cyk0C9d44" ++
      "0B9cyk0C8a840Bafuk0C8a840Bast80C7x9g0Bast80C7x9g0Bast80C8a840Bafuk0C8a840Bafuk0C8a840Bast" ++
      "80C7x9g0Bast80C7x9g0Bast80C8a840Bafuk0C8a840Bafuk0C8a840Bafuk0C8a840Bast80C7x9g0Dipzw0Cas" ++
      "t80D8a840Cafuk0D8a840Cafuk0D8a840Cast80D7x9g0Cast80D7x9g0Cast80",
    some (northAmerican 2007 (-18000))⟩,
  ⟨"America/La_Paz", [-16356, -12756, -14400], "B1wrzjacC84ik0", none⟩,
  ⟨"America/Lima", [-18492, -18516, -18000, -14400],
    "B1ayygxoC9ov9coDfcxjloC4ml80D93us0C9cyk0D9d440C9cyk0Dnw16s0C4ml80De5c40C4ml80D1fr1g0C4ml80D" ++
      "1yiys0C4ml80", none⟩,
  ⟨"America/Los_Angeles", [-28378, -28800, -25200],
    "B17ryvk0Chxltk0Bast80C7x9g0Bast80Cbmtus0B1wd180C1a3c5oBf2iicCowao0B7k800Cb5uo0B7x6o0Casw00B" ++
      "7x6o0Casw00B7x6o0Casw00B7x6o0Casw00B7x6o0Cb5uo0B7x6o0Casw00B7x6o0Casw00B7x6o0Casw00B7x6o0" ++
      "Casw00B7x6o0Cb5uo0B7k800Cb5uo0B9d1c0C9d1c0B9d1c0C9d1c0B9d1c0C9d1c0B9q000C902o0B9q000C9d44" ++
      "0B9cyk0C9d440B9cyk0C9d440B9cyk0C9d440B9cyk0C9d440B9px80C9d440B9cyk0C9d440B9cyk0C3lpg0Bf4d" ++
      "80C64g40Bclmk0C9d440B9px80C905g0B9px80C9d440B9cyk0C9d440B9cyk0C9d440B9cyk0C9d440B9cyk0C9d" ++
      "440B9px80C905g0B9px80C9d440B9cyk0C9d440B9cyk0C9d440B9cyk0C8a840Bafuk0C8a840Bast80C7x9g0Ba" ++
      "st80C7x9g0Bast80C8a840Bafuk0C8a840Bafuk0C8a840Bast80C7x9g0Bast80C7x9g0Bast80C8a840Bafuk0C" ++
      "8a840Bafuk0C8a840Bafuk0C8a840Bast80C7x9g0Bast80C7x9g0Bast80C8a840Bafuk0C8a840Bafuk0C8a840" ++
      "Bast80C7x9g0Bast80C7x9g0Bast80", some (northAmerican 2007 (-28800))⟩,
  ⟨"America/Maceio", [-8572, -10800, -7200],
    "B1nhtqm4C99kaxwB9a9c0C9io40B99980C8p65g0B6zuo0Cbs2o0B67zw0Ccjxg0B69uk0Ccjxg0B4ml80C5mf440B4" ++
      "9mk0Chaas0B316k0Ccls40B4ml80Ccls40B66580Ccls40B67zw0C981s40B6u7w0Cbiw40B5rbw0Cd0lg0B5ed80" ++
      "Ccyqs0B5ed80Cdbpg0B64ak0C2yl440B64ak0C1wf1g0B7k580Cbiw40Bpuk0Cid6s0B6h980", none⟩,
  ⟨"America/Managua", [-20708, -20712, -21600, -18000],
    "B1ayyin8Cn7jmo4Dka1i0oCxqqk0D24p6s0C53980Ddmtg0C53980D60itw0Cdq240D53es0C235h80D4beis0C8zzw" ++
      "0Dat4c0C7x140", none⟩,
  ⟨"America/Manaus", [-14404, -14400, -10800],
    "B1nhtv44C99k97wB9a9c0C9io40B99980C8p65g0B6zuo0Cbs2o0B67zw0Ccjxg0B69uk0Ccjxg0B4ml80C5mf440B4" ++
      "9mk0Chaas0B316k0Ccls40B4ml80Ccls40B66580Ccls40B67zw0C981s40B6u7w0Cbiw40B5rbw0Cd0lg0B5ed80" ++
      "C2yy2s0B6h980", none⟩,
  ⟨"America/Martinique", [-14660, -14400, -10800], "B1m3mgn8Czz5x4sB8zzw0", none⟩,
  ⟨"America/Matamoros", [-23400, -21600, -18000],
    "B1ro54o0Cykt480Bast80C3vppg0Bafuk0C8a840Bafuk0C8a840Bafuk0C8a840Bast80C7x9g0Bast80C9q2s0B7k" ++
      "580C9q2s0Bafuk0C8a840Bafuk0C8a840Bast80C7x9g0Bast80C7x9g0Bast80C7x9g0Bast80C8a840Bafuk0C8" ++
      "a840Bafuk0", some (northAmerican 2010 (-21600))⟩,
  ⟨"America/Mazatlan", [-25540, -25200, -21600],
    "B1ro57g0C2u5s00B1si580C8jhg0B7x3w0C9eys0B591h80Cs5qoc0Bafuk0C8a840Bafuk0C8a840Bafuk0C8a840B" ++
      "ast80C7x9g0Bast80C9q2s0B7k580C9q2s0Bafuk0C8a840Bafuk0C8a840Bast80C7x9g0Bast80C7x9g0Bast80" ++
      "C7x9g0Bast80C8a840Bafuk0C8a840Bafuk0C8a840Bast80C7x9g0Bast80C7x9g0Bast80C8a840Bafuk0C8a84" ++
      "0Bafuk0C8a840Bafuk0C8a840Bast80C7x9g0Bast80C7x9g0Bast80C8a840Bafuk0C8a840Bafuk0C8a840Bast" ++
      "80C7x9g0Bast80", none⟩,
  ⟨"America/Menominee", [-21027, -21600, -18000],
    "B18qfg83Cgz53bxBast80C7x9g0Bast80Cbmtus0B1wd180Casys0B7x3w0Ca7n9g0B9px80C1at9g0B2cm7w0C3lpg" ++
      "0Bf4d80C64g40Bclmk0C9d440B9px80C905g0B9px80C9d440B9cyk0C9d440B9cyk0C9d440B9cyk0C9d440B9cy" ++
      "k0C9d440B9px80C905g0B9px80C9d440B9cyk0C9d440B9cyk0C9d440B9cyk0C8a840Bafuk0C8a840Bast80C7x" ++
      "9g0Bast80C7x9g0Bast80C8a840Bafuk0C8a840Bafuk0C8a840Bast80C7x9g0Bast80C7x9g0Bast80C8a840Ba" ++
      "fuk0C8a840Bafuk0C8a840Bafuk0C8a840Bast80C7x9g0Bast80C7x9g0Bast80C8a840Bafuk0C8a840Bafuk0C" ++
      "8a840Bast80C7x9g0Bast80C7x9g0Bast80", some (northAmerican 2007 (-21600))⟩,
  ⟨"America/Merida", [-21508, -21600, -18000],
    "B1ro54o0Cvb0dk0Bfzuk0C70bes0Bafuk0C8a840Bafuk0C8a840Bafuk0C8a840Bast80C7x9g0Bast80C9q2s0B7k" ++
      "580C9q2s0Bafuk0C8a840Bafuk0C8a840Bast80C7x9g0Bast80C7x9g0Bast80C7x9g0Bast80C8a840Bafuk0C8" ++
      "a840Bafuk0C8a840Bast80C7x9g0Bast80C7x9g0Bast80C8a840Bafuk0C8a840Bafuk0C8a840Bafuk0C8a840B" ++
      "ast80C7x9g0Bast80C7x9g0Bast80C8a840Bafuk0C8a840Bafuk0C8a840Bast80C7x9g0Bast80", none⟩,
  ⟨"America/Metlakatla", [54822, -31578, -28800, -25200, -32400],
    "Bzdrlg1Ch4ytl5Dln70quC1wd180Dcawis0C9cyk0D9d440C9cyk0D9d440C9px80D9d440C9cyk0D9d440C9cyk0D3" ++
      "lpg0Cf4d80D64g40Cclmk0D9d440C9px80D905g0C9px80D9d440C9cyk0D9d440C9cyk0D9d440C9cyk0D9d440C" ++
      "9cyk0D9d440C9px80D905g0C9px80Egpc840C6udg0Ec8nw0C6hes0Ec8nw0C6hes0Eg7980",
    some (northAmerican 2019 (-32400))⟩]

def americaC : List ZoneRow := [
  ⟨"America/Mexico_City", [-23796, -25200, -21600, -18000],
    "B1ro57g0C2u5s00B1si580C8jhg0B7x3w0C9eys0D3knek0C776k0Drf440C5t6k0D1evk40C71mk0D30p1g0C8n180" ++
      "Dnufxo0Cafuk0D8a840Cafuk0D8a840Cafuk0D8a840Cast80D7x9g0Cast80D9q2s0C7k580D9q2s0Cafuk0D8a8" ++
      "40Cafuk0D8a840Cast80D7x9g0Cast80D7x9g0Cast80D7x9g0Cast80D8a840Cafuk0D8a840Cafuk0D8a840Cas" ++
      "t80D7x9g0Cast80D7x9g0Cast80D8a840Cafuk0D8a840Cafuk0D8a840Cafuk0D8a840Cast80D7x9g0Cast80D7" ++
      "x9g0Cast80D8a840Cafuk0D8a840Cafuk0D8a840Cast80D7x9g0Cast80", none⟩,
  ⟨"America/Miquelon", [-13480, -14400, -10800, -7200],
    "B1m5xrqgCzy4wpkD3m59g0Cafuk0D8a840Cast80D7x9g0Cast80D7x9g0Cast80D8a840Cafuk0D8a840Cafuk0D8a" ++
      "840Cast80D7x9g0Cast80D7x9g0Cast80D8a840Cafuk0D8a840Cafuk0D8a840Cafuk0D8a840Cast80D7x9g0Ca" ++
      "st80D7x9g0Cast80D8a840Cafuk0D8a840Cafuk0D8a840Cast80D7x9g0Cast80D7x9g0Cast80",
    some (northAmerican 2007 (-10800))⟩,
  ⟨"America/Moncton", [-15548, -18000, -14400, -10800],
    "B17t0jzwC9nu9w4D89fhg0Ca2vw0D7mqqo0C4ofw0De1ms0C4ofw0De1ms0C4ofw0De1ms0C4ofw0De1ms0C4ofw0De" ++
      "1ms0C4ofw0Ddmtg0C64ak0Dcao40C6fek0Dbkqs0C7iak0D6y5k0C1wd180Dasys0C7x3w0Dasys0C7x3w0Dasys0" ++
      "C7x3w0Dasys0C7x3w0Db5xg0C7k580Db5xg0C7x3w0Dasys0C7x3w0Dasys0C7x3w0Dasys0C7x3w0Dasys0C7x3w" ++
      "0Db5xg0C7x3w0Dasys0C9cyk0D9d440C9cyk0D9d440C9cyk0D9d440C9px80D9d440C9cyk0D9d440C9cyk0D9d4" ++
      "40C9cyk0D9d440C9cyk0D9d440C9px80D905g0C9px80D9d440C9cyk0D9d440C9cyk0D9d440C9cyk0D9d440C9c" ++
      "yk0D9d440C9px80D9d440C9cyk0Ds36s0C9cyk0D9d440C9cyk0D9d440C9px80D905g0C9px80D9d440C9cyk0D9" ++
      "d440C9cyk0D9d440C9cyk0D9d440C9cyk0D9d440C9px80D905g0C9px80D9d440C9cyk0D9d440C9cyk0D9d440C" ++
      "9cyk0D8a840Cafuk0D8a840Cast80D7x9g0Cast80D7x9g0Cast80D8a840Cafuk0D8a840Cafuk0D8a2loCast80" ++
      "D7x9g0Cast80D7x9g0Cast80D8a840Cafuk0D8a840Cafuk0D8a840Cafuk0D8a840Cast80D7x9g0Cast80D7x9g" ++
      "0Cast80D8a840Cafuk0D8a840Cafuk0D8a840Cast80D7x9g0Cast80D7x9g0Cast80",
    some (northAmerican 2007 (-14400))⟩,
  ⟨"America/Monterrey", [-24076, -25200, -21600, -18000],
    "B1ro54o0C2u5us0B1si580C8jhg0B7x3w0C9eys0Dt89k40Cast80D3vppg0Cafuk0D8a840Cafuk0D8a840Cafuk0D" ++
      "8a840Cast80D7x9g0Cast80D9q2s0C7k580D9q2s0Cafuk0D8a840Cafuk0D8a840Cast80D7x9g0Cast80D7x9g0" ++
      "Cast80D7x9g0Cast80D8a840Cafuk0D8a840Cafuk0D8a840Cast80D7x9g0Cast80D7x9g0Cast80D8a840Cafuk" ++
      "0D8a840Cafuk0D8a840Cafuk0D8a840Cast80D7x9g0Cast80D7x9g0Cast80D8a840Cafuk0D8a840Cafuk0D8a8" ++
      "40Cast80D7x9g0Cast80", none⟩,
  ⟨"America/Montevideo", [-13491, -14400, -10800, -12600, -9000, -7200, -5400],
    "B1qsrbqrC1s74p9D9et80C9exe0D9czy0C9exe0D9czy0C3ydyq0D7x5a0Casxe0D7x5a0Casxe0D7x5a0Casxe0D7x" ++
      "5a0Cb5w20D7k6m0Cb5w20D7k6m0C9q1e0D9czy0Casxe0D7x5a0C6do20Eppvy0C4mmm0E8g9qq0C901a0F38pe0C" ++
      "2inw0F2nf9g0C8zzw0E1e3s40C9o3y0Fq8he0C2kik0Fyxhg0C4bh80Gs36s0E2vl60C905g0F5rg20C51ek0Fweq" ++
      "s0C3yik0Fe1ms0C4ofw0Ferk40C3yik0F2vs40Cgk7w0F41iys0C3wnw0Ferk40C4bh80Fc8tg0C64ak0Fc8tg0C6" ++
      "u7w0Fc8tg0C6h980Fbvus0C6u7w0F614qs0C9q2s0Fa31g0C7x3w0Fag040C8a2k0Fasys0C7x3w0Fasys0C7x3w0" ++
      "Fasys0C8a2k0Fag040C8a2k0Fag040C8a2k0Fasys0C7x3w0Fasys0C7x3w0Fasys0C7x3w0", none⟩,
  ⟨"America/New_York", [-17762, -18000, -14400],
    "B17ryn80Chxltk0Bast80C7x9g0Bast80C7x9g0Bb5rw0C905g0B7x3w0Cb5xg0B7k580Cb5xg0B7x3w0Casys0B7x3" ++
      "w0Casys0B7x3w0Casys0B7x3w0Casys0B7x3w0Cb5xg0B7x3w0Casys0B7x3w0Casys0B7x3w0Casys0B7x3w0Cas" ++
      "ys0B7x3w0Cb5xg0B7k580Cb5xg0B7x3w0Casys0B7x3w0Casys0B7x3w0Casys0B7x3w0Casys0B7x3w0Cb5xg0B7" ++
      "k580Cb5xg0B7x3w0Casys0B7x3w0C6w840B1wd180Casys0B7x3w0Casys0B7x3w0Casys0B7x3w0Casys0B7x3w0" ++
      "Cb5xg0B7k580Cb5xg0B7x3w0Casys0B7x3w0Casys0B7x3w0Casys0B7x3w0Casys0B9px80C9d440B9cyk0C9d44" ++
      "0B9cyk0C9d440B9cyk0C9d440B9cyk0C9d440B9px80C9d440B9cyk0C9d440B9cyk0C9d440B9cyk0C9d440B9cy" ++
      "k0C9d440B9px80C905g0B9px80C9d440B9cyk0C9d440B9cyk0C9d440B9cyk0C9d440B9cyk0C9d440B9px80C9d" ++
      "440B9cyk0C9d440B9cyk0C3lpg0Bf4d80C64g40Bclmk0C9d440B9px80C905g0B9px80C9d440B9cyk0C9d440B9" ++
      "cyk0C9d440B9cyk0C9d440B9cyk0C9d440B9px80C905g0B9px80C9d440B9cyk0C9d440B9cyk0C9d440B9cyk0C" ++
      "8a840Bafuk0C8a840Bast80C7x9g0Bast80C7x9g0Bast80C8a840Bafuk0C8a840Bafuk0C8a840Bast80C7x9g0" ++
      "Bast80C7x9g0Bast80C8a840Bafuk0C8a840Bafuk0C8a840Bafuk0C8a840Bast80C7x9g0Bast80C7x9g0Bast8" ++
      "0C8a840Bafuk0C8a840Bafuk0C8a840Bast80C7x9g0Bast80C7x9g0Bast80",
    some (northAmerican 2007 (-18000))⟩,
  ⟨"America/Nome", [46702, -39698, -39600, -36000, -32400, -28800],
    "Bzdrlg1Ch4yzupDln72taC1wd180Dcawis0C9cyk0D9d440C9cyk0D9d440C9px80D9d440C9cyk0D9d440C9cyk0D3" ++
      "lpg0Cf4d80D64g40Cclmk0D9d440C9px80D905g0C9px80D9d440C9cyk0D9d440C9cyk0D9d440C9cyk0D9d440C" ++
      "9cyk0D9d440C9px80D905g0E9px80F9cyk0E9cyk0F9d440E9cyk0F9d440E9cyk0F8a840Eafuk0F8a840East80" ++
      "F7x9g0East80F7x9g0East80F8a840Eafuk0F8a840Eafuk0F8a840East80F7x9g0East80F7x9g0East80F8a84" ++
      "0Eafuk0F8a840Eafuk0F8a840Eafuk0F8a840East80F7x9g0East80F7x9g0East80F8a840Eafuk0F8a840Eafu" ++
      "k0F8a840East80F7x9g0East80F7x9g0East80", some (northAmerican 2007 (-32400))⟩,
  ⟨"America/Noronha", [-7780, -7200, -3600],
    "B1nhtq04C99k8rwB9a9c0C9io40B99980C8p65g0B6zuo0Cbs2o0B67zw0Ccjxg0B69uk0Ccjxg0B4ml80C5mf440B4" ++
      "9mk0Chaas0B316k0Ccls40B4ml80Ccls40B66580Ccls40B67zw0C981s40B6u7w0Cbiw40B5rbw0Cd0lg0B5ed80" ++
      "Ccyqs0B5ed80Cdbpg0B64ak0C514g40B7k580Cbiw40Bcvw0Ciq5g0B6h980", none⟩,
  ⟨"America/North_Dakota/Beulah", [-24427, -25200, -21600],
    "B17ryss0Chxltk0Bast80C7x9g0Bast80Cbmtus0B1wd180Cb9gdg0B9cyk0C9d440B9cyk0C9d440B9cyk0C9d440B" ++
      "9cyk0C9d440B9px80C9d440B9cyk0C9d440B9cyk0C3lpg0Bf4d80C64g40Bclmk0C9d440B9px80C905g0B9px80" ++
      "C9d440B9cyk0C9d440B9cyk0C9d440B9cyk0C9d440B9cyk0C9d440B9px80C905g0B9px80C9d440B9cyk0C9d44" ++
      "0B9cyk0C9d440B9cyk0C8a840Bafuk0C8a840Bast80C7x9g0Bast80C7x9g0Bast80C8a840Bafuk0C8a840Bafu" ++
      "k0C8a840Bast80C7x9g0Bast80C7x9g0Bast80C8a840Bafuk0C8a840Bafuk0C8a840Bafuk0C8a840Bast80C7x" ++
      "9g0Bast80C7x9g0Bast80C8a840Bafuk0C8a840Bafuk0C8a840Bast80C7x9g0Bast80C7x9g0Bast80C6udg0Bc" ++
      "8nw0C6hes0Bc8nw0C6hes0Bc8nw0C6udg0", some (northAmerican 2011 (-21600))⟩,
  ⟨"America/North_Dakota/Center", [-24312, -25200, -21600, -18000],
    "B17ryss0Chxltk0Bast80C7x9g0Bast80Cbmtus0B1wd180Cb9gdg0B9cyk0C9d440B9cyk0C9d440B9cyk0C9d440B" ++
      "9cyk0C9d440B9px80C9d440B9cyk0C9d440B9cyk0C3lpg0Bf4d80C64g40Bclmk0C9d440B9px80C905g0B9px80" ++
      "C9d440B9cyk0C9d440B9cyk0C9d440B9cyk0C9d440B9cyk0C9d440B9px80C905g0B9px80C9d440B9cyk0C9d44" ++
      "0B9cyk0C9d440B9cyk0C8a840Bafuk0C8a840Bast80C7x9g0Bast80C7x9g0Bast80C8a840Bafuk0C8a840Dipz" ++
      "w0Cast80D7x9g0Cast80D7x9g0Cast80D8a840Cafuk0D8a840Cafuk0D8a840Cafuk0D8a840Cast80D7x9g0Cas" ++
      "t80D7x9g0Cast80D8a840Cafuk0D8a840Cafuk0D8a840Cast80D7x9g0Cast80D7x9g0Cast80",
    some (northAmerican 2007 (-21600))⟩,
  ⟨"America/North_Dakota/New_Salem", [-24339, -25200, -21600, -18000],
    "B17ryss0Chxltk0Bast80C7x9g0Bast80Cbmtus0B1wd180Cb9gdg0B9cyk0C9d440B9cyk0C9d440B9cyk0C9d440B" ++
      "9cyk0C9d440B9px80C9d440B9cyk0C9d440B9cyk0C3lpg0Bf4d80C64g40Bclmk0C9d440B9px80C905g0B9px80" ++
      "C9d440B9cyk0C9d440B9cyk0C9d440B9cyk0C9d440B9cyk0C9d440B9px80C905g0B9px80C9d440B9cyk0C9d44" ++
      "0B9cyk0C9d440B9cyk0C8a840Bafuk0C8a840Bast80C7x9g0Bast80C7x9g0Bast80C8a840Bafuk0C8a840Bafu" ++
      "k0C8a840Bast80C7x9g0Bast80C7x9g0Bast80C8a840Bafuk0C8a840Bafuk0C8a840Bafuk0C8a840Bast80C7x" ++
      "9g0Bast80C7x9g0Bast80C8a840Bafuk0C8a840Dipzw0Cast80D7x9g0Cast80D7x9g0Cast80",
    some (northAmerican 2007 (-21600))⟩,
  ⟨"America/Nuuk", [-12416, -10800, -7200],
    "B1ou4pkwCx8nqz4B8zrk0C9d1c0B9d1c0C9d1c0B9d1c0C9d1c0B9d1c0C9d1c0B9q000C9d1c0B9d1c0C9d1c0B9d1" ++
      "c0C9d1c0B9d1c0C9d1c0B9d1c0C9d1c0B9d1c0C9d1c0B9q000C9d1c0B9d1c0C9d1c0B9d1c0C9d1c0B9d1c0C9d" ++
      "1c0B9d1c0C9d1c0B9d1c0C9q000Basw00C7x6o0Basw00C7x6o0Basw00C7x6o0Bb5uo0C7k800Bb5uo0C7k800Bb" ++
      "5uo0C7x6o0Basw00C7x6o0Basw00C7x6o0Bb5uo0C7k800Bb5uo0C7k800Bb5uo0C7k800Bb5uo0C7x6o0Basw00C" ++
      "7x6o0Basw00C7x6o0Bb5uo0C7k800Bb5uo0C7k800Bb5uo0C7x6o0Basw00C7x6o0Basw00C7x6o0Basw00C7x6o0" ++
      "Bb5uo0C7k800Bb5uo0C7k800Bb5uo0C7x6o0Basw00C7x6o0Basw00C7x6o0Bb5uo0C7k800Bb5uo0C7k800",
    some (european 2024 (-7200))⟩,
  ⟨"America/Ojinaga", [-25060, -25200, -21600, -18000],
    "B1ro57g0C2u5s00B1si580C8jhg0B7x3w0C9eys0Dxes2s0Cafuk0D8a840Cafuk0Biq5g0C8a840Bast80C7x9g0Ba" ++
      "st80C9q2s0B7k580C9q2s0Bafuk0C8a840Bafuk0C8a840Bast80C7x9g0Bast80C7x9g0Bast80C7x9g0Bast80C" ++
      "8a840Bafuk0C8a840Bafuk0C77c40Bc8nw0C6hes0Bc8nw0C6hes0Bc8nw0C6hes0Bc8nw0C6hes0Bc8nw0C6hes0" ++
      "Bc8nw0C6udg0Bc8nw0C6hes0Bc8nw0C6hes0Bc8nw0C6hes0Bc8nw0C6hes0Bc8nw0C6udg0Bc8nw0C6hes0",
    some (northAmerican 2023 (-21600))⟩,
  ⟨"America/Panama", [-19088, -19176, -18000], "B1ayyhe8C9jvmqg", none⟩,
  ⟨"America/Paramaribo", [-13240, -13252, -13236, -12600, -10800], "B1lxg7jsCcixc0cD5lydbkEkcrm6c",
    none⟩,
  ⟨"America/Phoenix", [-26898, -25200, -21600],
    "B17ryss0Chxltk0Bast80C7x9g0Bast80Cbmtus0BzjedoC4olg0B9et80Cbs6lmcB9cyk0", none⟩,
  ⟨"America/Port-au-Prince", [-17360, -17340, -18000, -14400],
    "B1ayyg28Ce4gmngDylcf6cC8zzw0D9d440C9cyk0D9d440C9cyk0D9d440C9cyk0D9d440C9cyk0D8aaw0Casw00D7x" ++
      "6o0Casw00D7x6o0Casw00D8a5c0Cafxc0D8a5c0Cafxc0D8a5c0Casw00D7x6o0Casw00D7x6o0Casw00D8a5c0Ca" ++
      "fxc0D8a5c0Cafxc0D3vpjw0Cast80D7x9g0Cast80D2stv00Cc8nw0D6hes0Cc8nw0D6hes0Cc8nw0D6hes0Cc8nw" ++
      "0",
    some (northAmerican 2017 (-18000))⟩,
  ⟨"America/Porto_Velho", [-15336, -14400, -10800],
    "B1nhtvu0C99k8i0B9a9c0C9io40B99980C8p65g0B6zuo0Cbs2o0B67zw0Ccjxg0B69uk0Ccjxg0B4ml80C5mf440B4" ++
      "9mk0Chaas0B316k0Ccls40B4ml80Ccls40B66580Ccls40B67zw0C981s40B6u7w0Cbiw40B5rbw0Cd0lg0B5ed80",
    none⟩,
  ⟨"America/Puerto_Rico", [-15865, -14400, -10800], "B1fshmwpCmhp1jbB1s3hg0", none⟩,
  ⟨"America/Punta_Arenas", [-17020, -16965, -18000, -14400, -10800],
    "B1ayyfssCag6lahB3dlssrD157b79Bf4e0rD49hzb9Caye0rD7ves0Cawik0D7ves0Cawik0D7ves0Cawik0D7ves0C" ++
      "ayd80D7ves0C534ik0D351g0C2fnh80D2mg00Eb73400D7k580Ec8tg0D6h980Ea31g0D7x3w0Easys0D7x3w0Eb5" ++
      "xg0D7k580Eag040D8a2k0Eb5xg0D7k580Eb5xg0D7x3w0Easys0D7x3w0Easys0D7x3w0Eb5xg0D7k580Eb5xg0D7" ++
      "k580Eb5xg0D7x3w0Easys0D7x3w0Easys0D7x3w0Easys0D7x3w0Eb5xg0D7k580Eb5xg0D7k580Eb5xg0D9cyk0E" ++
      "9d440D7x3w0Easys0D7x3w0Eb5xg0D7k580E9q2s0D8zzw0Eb5xg0D7x3w0Easys0D7x3w0Easys0D7x3w0Easys0" ++
      "D7x3w0Eb5xg0D7k580Eb5xg0D8n180Ea31g0D7x3w0Ea31g0D9px80E9q2s0D7x3w0Eb5xg0D7k580Eb5xg0D7k58" ++
      "0Eb5xg0D7k580Eb5xg0D7x3w0Easys0D7x3w0Easys0D7x3w0Eb5xg0D7k580Eb5xg0D8n180Ea31g0D7x3w0Easy" ++
      "s0D8zzw0E9q2s0Dast80E5eis0Dcyl80E6hes0Dc8nw0E6udg0Dbvp80E6udg0Dvonw0E4olg0", none⟩,
  ⟨"America/Rankin_Inlet", [0, -21600, -18000],
    "B29xqqo0C7zza80B9cyk0C9d440B9cyk0C9d440B9cyk0C9d440B9cyk0C9d440B9px80C905g0B9px80C9d440B9cy" ++
      "k0C9d440B9cyk0C9d440B9cyk0C9d440B9cyk0C9d440B9px80C905g0B9px80C9d440B9cyk0C9d440B9cyk0C9d" ++
      "440B9cyk0C8a840Bafuk0C8a840Bast80C7x9g0Bast80C7x9g0Bast80C8a840Bafuk0C8a840Bafuk0C8a840Ba" ++
      "st80C7x9g0Bast80C7x9g0Bast80C8a840Bafuk0C8a840Bafuk0C8a840Bafuk0C8a840Bast80C7x9g0Btivw0C" ++
      "8a840Bafuk0C8a840Bafuk0C8a840Bast80C7x9g0Bast80C7x9g0Bast80",
    some (northAmerican 2007 (-21600))⟩,
  ⟨"America/Recife", [-8376, -10800, -7200],
    "B1nhtqgoC99kb3cB9a9c0C9io40B99980C8p65g0B6zuo0Cbs2o0B67zw0Ccjxg0B69uk0Ccjxg0B4ml80C5mf440B4" ++
      "9mk0Chaas0B316k0Ccls40B4ml80Ccls40B66580Ccls40B67zw0C981s40B6u7w0Cbiw40B5rbw0Cd0lg0B5ed80" ++
      "Ccyqs0B5ed80Cdbpg0B64ak0C514g40B7k580Cbiw40Bcvw0Ciq5g0B6h980", none⟩,
  ⟨"America/Regina", [-25116, -25200, -21600],
    "B1j5921oC6l1hmcBa2vw0C60enw0B7x3w0Casys0B7x3w0Casys0B7x3w0Cb5xg0B7k580Cb5xg0B7x3w0C1b6840B9" ++
      "cyk0C9d440B8zzw0C9q2s0B9cyk0C9q2s0B9cyk0C9d440B9cyk0C66gc0B1wd180Ca31g0B9cyk0Ca31g0B7x3w0" ++
      "Casys0B7x3w0Casys0B7x3w0Cb5xg0B7k580Cb5xg0B7x3w0Casys0B7x3w0Casys0B7x3w0Casys0B7x3w0Casys" ++
      "0B7x3w0Cb5xg0B7x3w0Casys0B7x3w0Ctj1g0B9cyk0C9d440", none⟩,
  ⟨"America/Resolute", [0, -21600, -18000],
    "B252a2o0Ccvfy80B9cyk0C9d440B9cyk0C9d440B9cyk0C9d440B9cyk0C9d440B9px80C905g0B9px80C9d440B9cy" ++
      "k0C9d440B9cyk0C9d440B9cyk0C9d440B9cyk0C9d440B9px80C905g0B9px80C9d440B9cyk0C9d440B9cyk0C9d" ++
      "440B9cyk0C8a840Bafuk0C8a840Bast80C7x9g0Bast80C7x9g0Bast80C8a840Bafuk0C8a840Bafuk0C8a840Ba" ++
      "st80C7x9g0Bast80C7x9g0Bast80C8a840Bafuk0C8a840Bafuk0C8a840Bafuk0C8a840Bast80C7x9g0Btivw0C" ++
      "8a840Bafuk0C8a840Bafuk0C8a840Bast80C7x9g0Bast80C7x9g0Btvuk0",
    some (northAmerican 2008 (-21600))⟩,
  ⟨"America/Rio_Branco", [-16272, -18000, -14400],
    "B1nhtwk0C99kak0B9a9c0C9io40B99980C8p65g0B6zuo0Cbs2o0B67zw0Ccjxg0B69uk0Ccjxg0B4ml80C5mf440B4" ++
      "9mk0Chaas0B316k0Ccls40B4ml80Ccls40B66580Ccls40B67zw0C981s40B6u7w0Cbiw40B5rbw0Cd0lg0B5ed80" ++
      "Camves0B2t2t80", none⟩,
  ⟨"America/Santarem", [-13128, -14400, -10800],
    "B1nhtu4oC99ka7cB9a9c0C9io40B99980C8p65g0B6zuo0Cbs2o0B67zw0Ccjxg0B69uk0Ccjxg0B4ml80C5mf440B4" ++
      "9mk0Chaas0B316k0Ccls40B4ml80Ccls40B66580Ccls40B67zw0C981s40B6u7w0Cbiw40B5rbw0Cd0lg0B5ed80" ++
      "Camves0", none⟩,
  ⟨"America/Santiago", [-16965, -18000, -14400, -10800],
    "B1lf5139A3dlssrC157b79Af4e0rC49hzb9Baye0rC7ves0Bawik0C7ves0Bawik0C7ves0Bawik0C7ves0Bayd80C7" ++
      "ves0B534ik0C351g0D229zw0C2b980Bb2840C2mg00Db73400C7k580Dc8tg0C6h980Da31g0C7x3w0Dasys0C7x3" ++
      "w0Db5xg0C7k580Dag040C8a2k0Db5xg0C7k580Db5xg0C7x3w0Dasys0C7x3w0Dasys0C7x3w0Db5xg0C7k580Db5" ++
      "xg0C7k580Db5xg0C7x3w0Dasys0C7x3w0Dasys0C7x3w0Dasys0C7x3w0Db5xg0C7k580Db5xg0C7k580Db5xg0C9" ++
      "cyk0D9d440C7x3w0Dasys0C7x3w0Db5xg0C7k580D9q2s0C8zzw0Db5xg0C7x3w0Dasys0C7x3w0Dasys0C7x3w0D" ++
      "asys0C7x3w0Db5xg0C7k580Db5xg0C8n180Da31g0C7x3w0Da31g0C9px80D9q2s0C7x3w0Db5xg0C7k580Db5xg0" ++
      "C7k580Db5xg0C7k580Db5xg0C7x3w0Dasys0C7x3w0Dasys0C7x3w0Db5xg0C7k580Db5xg0C8n180Da31g0C7x3w" ++
      "0Dasys0C8zzw0D9q2s0Cast80D5eis0Ccyl80D6hes0Cc8nw0D6udg0Cbvp80D6udg0Cvonw0D4olg0Ce1h80D4ol" ++
      "g0Ce1h80D4olg0Cc8nw0D7x9g0Cast80D7x9g0Cast80D7x9g0Cast80D8a840",
    some ⟨2023, ⟨4, 0, 2, 10800, -14400⟩, ⟨9, 0, 2, 14400, -10800⟩⟩⟩,
  ⟨"America/Santo_Domingo", [-16776, -16800, -18000, -14400, -16200],
    "B1ayyfm0CmkixcoDhiw29cC67zw0E1dy840C62ha0Ecnle0C4h2m0Eelyq0C47ta0Eei9e0C4bim0Eeek20C4dda0De" ++
      "cpe0Cdkmtg0D1stc0", none⟩,
  ⟨"America/Sao_Paulo", [-11188, -10800, -7200],
    "B1nhtsmsC99k8x8B9a9c0C9io40B99980C8p65g0B6zuo0Cbs2o0B67zw0Ccjxg0B69uk0Ccjxg0B4ml80C5k02s0B6" ++
      "onw0Chaas0B316k0Ccls40B4ml80Ccls40B66580Ccls40B67zw0C981s40B6u7w0Cbiw40B5rbw0Cd0lg0B5ed80" ++
      "Ccyqs0B5ed80Cdbpg0B64ak0Ccyqs0B64ak0Ccls40B5rbw0Cdbpg0B51ek0Cdbpg0B6h980Cc8tg0B6h980Cc8tg" ++
      "0B64ak0Cc8tg0B6u7w0Cbxpg0B7iak0Cbiw40B6u7w0Cbiw40B7k580Cbiw40B6u7w0Cc8tg0B6h980Cdbpg0B5ed" ++
      "80Ccls40B64ak0Cdfes0B5nmk0Cc8tg0B6h980Cdbpg0B5rbw0Cbvus0B6h980Ccls40B64ak0Ccls40B6h980Cc8" ++
      "tg0B6h980Cc8tg0B6u7w0Cc8tg0B64ak0Ccls40B64ak0Ccls40B6h980Cc8tg0B6h980Cc8tg0B6h980Cc8tg0B6" ++
      "h980Cdbpg0B5ed80",
    none⟩,
  ⟨"America/Scoresbysund", [-5272, -7200, -3600, 0],
    "B1ou4k2gCx8ntpkB902o0D9cvs0C9cyk0D9d1c0C9d1c0D9d1c0C9d1c0D9d1c0C9q000D9d1c0C9d1c0D9d1c0C9d1" ++
      "c0D9d1c0C9d1c0D9d1c0C9d1c0D9d1c0C9d1c0D9d1c0C9q000D9d1c0C9d1c0D9d1c0C9d1c0D9d1c0C9d1c0D9d" ++
      "1c0C9d1c0D9d1c0C9d1c0D9q000Casw00D7x6o0Casw00D7x6o0Casw00D7x6o0Cb5uo0D7k800Cb5uo0D7k800Cb" ++
      "5uo0D7x6o0Casw00D7x6o0Casw00D7x6o0Cb5uo0D7k800Cb5uo0D7k800Cb5uo0D7k800Cb5uo0D7x6o0Casw00D" ++
      "7x6o0Casw00D7x6o0Cb5uo0D7k800Cb5uo0D7k800Cb5uo0D7x6o0Casw00D7x6o0Casw00D7x6o0Casw00D7x6o0" ++
      "Cb5uo0D7k800Cb5uo0D7k800Cb5uo0D7x6o0Casw00D7x6o0Casw00D7x6o0Cb5uo0D7k800Cb5uo0D7k800Cb5uo" ++
      "0Biq2o0",
    some (european 2025 (-7200))⟩,
  ⟨"America/Sitka", [53927, -32473, -28800, -25200, -32400],
    "Bzdrlg1Ch4yua0Dln701zC1wd180Dcawis0C9cyk0D9d440C9cyk0D9d440C9px80D9d440C9cyk0D9d440C9cyk0D3" ++
      "lpg0Cf4d80D64g40Cclmk0D9d440C9px80D905g0C9px80D9d440C9cyk0D9d440C9cyk0D9d440C9cyk0D9d440C" ++
      "9cyk0D9d440C9px80D905g0E9px80C9d6w0E9cyk0C9d440E9cyk0C9d440E9cyk0C8a840Eafuk0C8a840East80" ++
      "C7x9g0East80C7x9g0East80C8a840Eafuk0C8a840Eafuk0C8a840East80C7x9g0East80C7x9g0East80C8a84" ++
      "0Eafuk0C8a840Eafuk0C8a840Eafuk0C8a840East80C7x9g0East80C7x9g0East80C8a840Eafuk0C8a840Eafu" ++
      "k0C8a840East80C7x9g0East80C7x9g0East80", some (northAmerican 2007 (-32400))⟩,
  ⟨"America/St_Johns", [-12652, -9052, -12600, -9000, -5400],
    "B1p778ngA8bx80Bar440Aa2vw0B9tjs0A53980Bdkys0A9cyk0B9d440A9cyk0B9q2s0A8zzw0B9q2s0A8zzw0B9q2s" ++
      "0A8zzw0B9q2s0A8zzw0B9q2s0A9cyk0B9d440A9cyk0B9q2s0A8zzw0B9q2s0A8zzw0B9q2s0A8zzw0B9q2s0A8zz" ++
      "w0B9q2s0A9cyk0B9q2s0A8zzw0B9q2s0A8zzw0C7tmw0D1wfukC8zzw0Da3480C7k580Db5xg0C7k580Db5xg0C7k" ++
      "580Dbiw40C776k0Dbiw40C7k580Db5xg0C7k580Db5xg0C1roo40Dbiw40C7k580Db5xg0C7k580Db5xg0C7k580D" ++
      "b5xg0C7k580Dbiw40C7k580Dag040C7x3w0Dasys0C7x3w0Dasys0C7x3w0Dasys0C7x3w0Dasys0C7x3w0Db5xg0" ++
      "C7x3w0Dasys0C7x3w0Dasys0C7x3w0Dasys0C7x3w0Dasys0C9px80D9d440C9cyk0D9d440C9cyk0D9d440C9cyk" ++
      "0D9d440C9cyk0D9d440C9px80D905g0C9px80D9d440C9cyk0D9d440C9cyk0D9d440C9cyk0D9d440C9cyk0D9d4" ++
      "40C9px80D9d440C9cyk0D9d440C9cyk0D9d440C9cyk0D9d440C9cyk0D9d440C9px80D905g0C9px80D9d440C9c" ++
      "yk0D9d440C9cyk0D9d440C9cyk0D9d440C9cyk0D9d440C9px80D905g0C9px80D9d440C9cyk0D9d440C9cyk0D9" ++
      "d440C9cyk0D8a2loCafuk0E8a840Casqg0D7xc80Cast80D7x9g0Cast80D8a840Cafuk0D8a840Cafuk0D8a840C" ++
      "ast80D7x9g0Cast80D7x9g0Cast80D8a840Cafuk0D8a840Cafuk0D8a840Cafuk0D8a840Cast80D7x9g0Cast80" ++
      "D7x9g0Cast80D8a840Cafuk0D8a840Cafuk0D8a840Cast80D7x9g0Cast80D7x9g0Cast80D6udg0Cc8nw0D6hes" ++
      "0Cc8nw0D6hes0Cc8nw0D6udg0Cc8nw0D6hes0Cc8tec", some (northAmerican 2012 (-12600))⟩,
  ⟨"America/Swift_Current", [-25880, -25200, -21600],
    "B1j592mwC6l1h14Ba2vw0Cc5jxg0B1wd180Casys0B8n180Ca31g0B7x3w0Casys0B7x3w0Casys0B7x3w0C3yles0B" ++
      "9cyk0Cs36s0B9cyk0C9d440B7x3w0Cb5xg0B7k580C5j4lg0", none⟩,
  ⟨"America/Tegucigalpa", [-20932, -21600, -18000],
    "B1r9zutgCyho0ikB7k580Cb5xg0B7k580C96x1g0B4qak0", none⟩,
  ⟨"America/Thule", [-16508, -14400, -10800],
    "B1ou4sqkC12yzilgB9cyk0C9d440B9cyk0C9q2s0Bast80C7x9g0Bast80C7x9g0Bast80C8a840Bafuk0C8a840Baf" ++
      "uk0C8a840Bafuk0C8a840Bast80C7x9g0Bast80C7x9g0Bast80C8a840Bafuk0C8a840Bafuk0C8a840Bast80C7" ++
      "x9g0Bast80C7x9g0Bast80", some (northAmerican 2007 (-14400))⟩,
  ⟨"America/Tijuana", [-28084, -25200, -28800],
    "B1ro57g0C11juo0B1sm040C1si580B71s40C9cyk0B5iidg0C1ux6k0B18uw40Celuk0Boa5g0C7iak0Bb6300C7x3w" ++
      "0Basys0C7x3w0Btiyo0C7x6o0Basw00C7x6o0Bb5uo0C7x6o0Basw00C7x6o0Basw00C7x6o0Basw00C7x6o0Basw" ++
      "00C7x6o0B84qys0C9px80B905g0C9px80B9d440C9cyk0B9d440C9cyk0B9d440C9cyk0B9d440C9cyk0B9d440C9" ++
      "px80B905g0C9px80B9d440C9cyk0B9d440C9cyk0B9d440C9cyk0B8a840Cafuk0B8a840Cast80B7x9g0Cast80B" ++
      "7x9g0Cast80B8a840Cafuk0B8a840Cafuk0B8a840Cast80B7x9g0Cast80B7x9g0Cast80B8a840Cafuk0B8a840" ++
      "Cafuk0B8a840Cafuk0B8a840Cast80B7x9g0Cast80B7x9g0Cast80B8a840Cafuk0B8a840Cafuk0B8a840Cast8" ++
      "0B7x9g0Cast80B7x9g0Cast80B7x9g0Cast80B8a840Cafuk0B8a840Cafuk0",
    some (northAmerican 2010 (-28800))⟩,
  ⟨"America/Toronto", [-19052, -18000, -14400],
    "B1dkvyp8Cc5efesBa2vw0C7yx60Baqzy0C9q8c0B7jzo0Cbw0c0B6bp80Ccedg0B6h980Cc8tg0B6h980Cbvus0B776" ++
      "k0Cbiw40B776k0Cbiw40B776k0Cbiw40B7k580Cb5xg0B7x3w0Casys0B7x3w0Casys0B7x3w0Casys0B7x3w0Cb5" ++
      "xg0B7k580Cb5xg0B7x3w0Casys0B7x3w0Casys0B7x3w0Casys0B7x3w0Casys0B7x3w0Casys0B7x3w0Cb5xg0B7" ++
      "k580Cb5xg0B2twfw0Casys0B7x3w0Casys0B7x3w0Casys0B7x3w0Casys0Bb5rw0C7x9g0Bast80C7x9g0B7x3w0" ++
      "Casys0B7x3w0Casys0B7x3w0Casys0B7x3w0Casys0B7x3w0Cb5xg0B7x3w0Casys0B9cyk0C9d440B9cyk0C9d44" ++
      "0B9cyk0C9d440B9px80C9d440B9cyk0C9d440B9cyk0C9d440B9cyk0C9d440B9cyk0C9d440B9px80C905g0B9px" ++
      "80C9d440B9cyk0C9d440B9cyk0C9d440B9cyk0C9d440B9cyk0C9d440B9px80C9d440B9cyk0C9d440B9cyk0C9d" ++
      "440B9cyk0C9d440B9cyk0C9d440B9px80C905g0B9px80C9d440B9cyk0C9d440B9cyk0C9d440B9cyk0C9d440B9" ++
      "cyk0C9d440B9px80C905g0B9px80C9d440B9cyk0C9d440B9cyk0C9d440B9cyk0C8a840Bafuk0C8a840Bast80C" ++
      "7x9g0Bast80C7x9g0Bast80C8a840Bafuk0C8a840Bafuk0C8a840Bast80C7x9g0Bast80C7x9g0Bast80C8a840" ++
      "Bafuk0C8a840Bafuk0C8a840Bafuk0C8a840Bast80C7x9g0Bast80C7x9g0Bast80C8a840Bafuk0C8a840Bafuk" ++
      "0C8a840Bast80C7x9g0Bast80C7x9g0Bast80", some (northAmerican 2007 (-18000))⟩,
  ⟨"America/Vancouver", [-29548, -28800, -25200],
    "B17u7g4sChw36b8Ba2vw0Cc5jxg0B1wd180Casys0B7x3w0Casys0B7x3w0Casys0B7x3w0Casys0B7x3w0Cb5xg0B7" ++
      "k580Cb5xg0B7x3w0Casys0B7x3w0Casys0B7x3w0Casys0B7x3w0Casys0B7x3w0Cb5xg0B7x3w0Casys0B7x3w0C" ++
      "asys0B7x3w0Casys0B7x3w0Casys0B7x3w0Cb5xg0B7k580Cb5xg0B9cyk0C9d440B9cyk0C9d440B9cyk0C9d440" ++
      "B9px80C905g0B9px80C9d440B9cyk0C9d440B9cyk0C9d440B9cyk0C9d440B9cyk0C9d440B9px80C9d440B9cyk" ++
      "0C9d440B9cyk0C9d440B9cyk0C9d440B9cyk0C9d440B9px80C905g0B9px80C9d440B9cyk0C9d440B9cyk0C9d4" ++
      "40B9cyk0C9d440B9cyk0C9d440B9px80C905g0B9px80C9d440B9cyk0C9d440B9cyk0C9d440B9cyk0C8a840Baf" ++
      "uk0C8a840Bast80C7x9g0Bast80C7x9g0Bast80C8a840Bafuk0C8a840Bafuk0C8a840Bast80C7x9g0Bast80C7" ++
      "x9g0Bast80C8a840Bafuk0C8a840Bafuk0C8a840Bafuk0C8a840Bast80C7x9g0Bast80C7x9g0Bast80C8a840B" ++
      "afuk0C8a840Bafuk0C8a840Bast80C7x9g0Bast80C7x9g0Bast80", some (northAmerican 2007 (-28800))⟩,
  ⟨"America/Whitehorse", [-32412, -32400, -28800, -25200],
    "B1gipiccC97l6voBa2vw0Casys0B882c0Cbmiwc0B1wd180Da7n3w0B9q000C64dc0D7e3pg0C9cyk0D9d440C9cyk0" ++
      "D9d440C9px80D905g0C9px80D9d440C9cyk0D9d440C9cyk0D9d440C9cyk0D8a840Cafuk0D8a840Cast80D7x9g" ++
      "0Cast80D7x9g0Cast80D8a840Cafuk0D8a840Cafuk0D8a840Cast80D7x9g0Cast80D7x9g0Cast80D8a840Cafu" ++
      "k0D8a840Cafuk0D8a840Cafuk0D8a840Cast80D7x9g0Cast80D7x9g0Cast80D8a840Cafuk0D8a840Cafuk0D8a" ++
      "840Cast80D7x9g0Cast80D7x9g0Cast80D6udg0Cc8nw0D6hes0Cc8nw0D6hes0Cc8nw0D6udg0Cc8nw0D6hes0Cc" ++
      "8nw0D6hes0Cc8nw0D6hes0Cc8nw0D6hes0Cc8nw0D6hes0Cc8nw0D6udg0Cc8nw0D6hes0Cc8nw0D6hes0Cc8nw0D" ++
      "6hes0Cc8nw0D6hes0", none⟩,
  ⟨"America/Winnipeg", [-23316, -21600, -18000],
    "B19onwnoCf0j80cB7k580Ctj700Ba2vw0C9ok840B6u7w0C2a5hg0B1wd180Cbiw40B7x3w0Ca31g0B7x3w0Casys0B" ++
      "7x3w0Casys0B7x3w0Cb7s40B7tek0Cautg0B7x3w0Casys0B7x3w0Casys0B7x3w0Casys0B7x3w0Casys0B7x3w0" ++
      "Cb5xg0B7x3w0Casys0B7x3w0Casys0B7x3w0Casys0B9cyk0C9d440B7x3w0C1cm2s0B7k580C1cm2s0B9q000C9d" ++
      "1c0B9d1c0C9d1c0B9d1c0C9d1c0B9d1c0C9d1c0B9d1c0C9d1c0B9q000C9d1c0B9d1c0C9d1c0B9d1c0C9d1c0B9" ++
      "d1c0C9d1c0B9d1c0C9d1c0B9q000C902o0B9q000C9d1c0B9d1c0C9d1c0B9d1c0C9d1c0B9d1c0C9d1c0B9d1c0C" ++
      "9d1c0B9q000C902o0B9q000C9d1c0B9d1c0C9d1c0B9d1c0C9d1c0B9d1c0C8a5c0Bafxc0C8a5c0Basw00C7x6o0" ++
      "Basw00C7x6o0Basw00C8a5c0Bafxc0C8a5c0Bafxc0C8a5c0Basw00C7x6o0Basw00C7x6o0Basw00C8a5c0Bafxc" ++
      "0C8a5c0Bafxc0C8a5c0Bafxc0C8a5c0Basw00C7x6o0Basw00C7x6o0Basw00C8a5c0Bafxc0C8a5c0Bafxc0C8a5" ++
      "c0Basw00C7x6o0Basw00C7x6o0Bast80", some (northAmerican 2007 (-21600))⟩]

def americaD : List ZoneRow := [
  ⟨"America/Yakutat", [52865, -33535, -32400, -28800],
    "Bzdrlg1Ch4yv3iDln720hC1wd180Dcawis0C9cyk0D9d440C9cyk0D9d440C9px80D9d440C9cyk0D9d440C9cyk0D3" ++
      "lpg0Cf4d80D64g40Cclmk0D9d440C9px80D905g0C9px80D9d440C9cyk0D9d440C9cyk0D9d440C9cyk0D9d440C" ++
      "9cyk0D9d440C9px80D905g0C9px80D9d440C9cyk0D9d440C9cyk0D9d440C9cyk0D8a840Cafuk0D8a840Cast80" ++
      "D7x9g0Cast80D7x9g0Cast80D8a840Cafuk0D8a840Cafuk0D8a840Cast80D7x9g0Cast80D7x9g0Cast80D8a84" ++
      "0Cafuk0D8a840Cafuk0D8a840Cafuk0D8a840Cast80D7x9g0Cast80D7x9g0Cast80D8a840Cafuk0D8a840Cafu" ++
      "k0D8a840Cast80D7x9g0Cast80D7x9g0Cast80", some (northAmerican 2007 (-32400))⟩]

def america : List ZoneRow := americaA ++ americaB ++ americaC ++ americaD

end HttpJournal.ZoneTable
