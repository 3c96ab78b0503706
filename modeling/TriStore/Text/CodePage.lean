import TriStore.Packed.Foretold
import TriStore.Text.Basic

/-!
Encodings with one byte for each character. Pages that agree in many places are packed one after the
other.
-/
namespace TriStore.Text

structure CodePage where
  number : Nat
  deriving DecidableEq, Repr, Inhabited

namespace CodePage

def labels : List String := [
  "cp037 037 csibm037 ebcdic_cp_ca ebcdic_cp_nl ebcdic_cp_us ebcdic_cp_wt ibm037 ibm039",
  "cp1140 1140 ibm1140",
  "cp500 500 csibm500 ebcdic_cp_be ebcdic_cp_ch ibm500",
  "cp273 273 csibm273 ibm273",
  "cp1026 1026 csibm1026 ibm1026",
  "cp424 424 csibm424 ebcdic_cp_he ibm424",
  "cp875",
  "cp864 864 csibm864 ibm864",
  "cp1006",
  "iso8859_10 csisolatin6 iso_8859_10 iso_8859_10_1992 iso_ir_157 l6 latin6",
  "iso8859_4 csisolatin4 iso_8859_4 iso_8859_4_1988 iso_ir_110 l4 latin4",
  "iso8859_2 csisolatin2 iso_8859_2 iso_8859_2_1987 iso_ir_101 l2 latin2",
  "cp1250 1250 windows_1250",
  "iso8859_9 csisolatin5 iso_8859_9 iso_8859_9_1989 iso_ir_148 l5 latin5",
  "iso8859_15 iso_8859_15 l9 latin9",
  "iso8859_14 iso_8859_14 iso_8859_14_1998 iso_celtic iso_ir_199 l8 latin8",
  "cp1254 1254 windows_1254",
  "cp1252 1252 windows_1252",
  "palmos",
  "cp1258 1258 windows_1258",
  "cp1256 1256 windows_1256",
  "iso8859_3 csisolatin3 iso_8859_3 iso_8859_3_1988 iso_ir_109 l3 latin3",
  "iso8859_16 iso_8859_16 iso_8859_16_2001 iso_ir_226 l10 latin10",
  "iso8859_13 iso_8859_13 l7 latin7",
  "cp1257 1257 windows_1257",
  "iso8859_8 csisolatinhebrew hebrew iso_8859_8 iso_8859_8_1988 iso_ir_138",
  "cp1255 1255 windows_1255",
  "cp1253 1253 windows_1253",
  "iso8859_7 csisolatingreek ecma_118 elot_928 greek greek8 iso_8859_7 iso_8859_7_1987 iso_ir_126",
  "koi8_t",
  "koi8_r cskoi8r",
  "koi8_u",
  "cp1251 1251 windows_1251",
  "kz1048 kz_1048 rk1048 strk1048_2002",
  "ptcp154 cp154 csptcp154 cyrillic_asian pt154",
  "mac_cyrillic maccyrillic",
  "cp1125 1125 cp866u ibm1125 ruscii",
  "cp866 866 csibm866 ibm866",
  "cp437 437 cspc8codepage437 ibm437",
  "cp865 865 csibm865 ibm865",
  "cp861 861 cp_is csibm861 ibm861",
  "cp860 860 csibm860 ibm860",
  "cp863 863 csibm863 ibm863",
  "cp862 862 cspc862latinhebrew ibm862",
  "cp720",
  "cp856",
  "cp850 850 cspc850multilingual ibm850",
  "cp858 858 csibm858 ibm858",
  "cp857 857 csibm857 ibm857",
  "cp852 852 cspcp852 ibm852",
  "cp775 775 cspc775baltic ibm775",
  "cp737",
  "cp869 869 cp_gr csibm869 ibm869",
  "cp855 855 csibm855 ibm855",
  "cp874",
  "iso8859_11 iso_8859_11 iso_8859_11_2001 thai",
  "tis_620 iso_ir_166 tis620 tis_620_0 tis_620_2529_0 tis_620_2529_1",
  "iso8859_6 arabic asmo_708 csisolatinarabic ecma_114 iso_8859_6 iso_8859_6_1987 iso_ir_127",
  "mac_arabic",
  "mac_farsi",
  "hp_roman8 cp1051 ibm1051 r8 roman8",
  "iso8859_5 csisolatincyrillic cyrillic iso_8859_5 iso_8859_5_1988 iso_ir_144",
  "mac_croatian",
  "mac_roman macintosh macroman",
  "mac_iceland maciceland",
  "mac_turkish macturkish",
  "mac_romanian",
  "mac_latin2 mac_centeuro maccentraleurope maclatin2",
  "mac_greek macgreek"]

def find? (p : String → Bool) : Option CodePage := (labels.findIdx? p).map fun n => ⟨n⟩

/-- The steps between the characters that pages have, the numbers of the pages that do not agree with ASCII,
and those of the pages for the codes from 128 on. -/
def packed : List String := [
  "խ%MEqC&;&Q&FjFWZtcnc=tjVЯj)7t-.5!ҕ.osxi-Z941-!/z-fzn2%zKQ$-D(_Y#=8Rrur̗O@)ЩMN!4Ƀ[h?4S.241FH?[J$rά8ʻE1?]|y97yzAq@M4ӽ@w5&]lZvZi#9| #Es̍MhҌE*-ƽGjsNc2ӟ6p5AV@^#hHB_YWH]?-f6dc~a_9ͱ9tiτSnВ1PjF>gQG=M6jUzGkKErK.ĀŐȸȋr%DЧAeBmYdԟJը|4qTbԼNDSqWS_X4o*8-ȉVՓEuJJӯ<!RmTu8z'b0H 1bUG`lPQO)#(_@@m=XdЩtLcn<P9S^ѕp2_ysтJI)xYюLqǒ%t#v$r#ũPX9x2T]iE-?Z0LW~Xvtk6CnH͐=n?^!%t9t±oɝW4xhП4lKW`yLBm%^!+=ѾVy4eȠ5F$DDn;fr-()ϪBpY^LVpie+@W(oB1aN ɑǅOĦoɴJC˒73C,Ɗ2|g#vLgǼ<MsƇ#$z9A6A#Vc5y&J41#ΉfFCƎAaD0_y΁yƟ̕б|FT?SöQi8q0@X3@5~rUR7&d!^F.WqMacL$ǍR3B.amJSESN8&RgKhAo-˹tǗ7jQ;Ν]Ӳz8nyTrK5͂sDhiÓ~(Ǎ3oO|TO?`k4[YSyСQYlB,?oqČ[<QtzηGDa+ïgDh>@tňQU*sT00#XDԷX.60Lz1̓Q()V<S@nj Уwc͍YQf*sCOf_ny]I1Z1RM>(?PϨ)ɿvfP<͔%wf˜59~tԌȍ|GM0*tkx`JFȷeOŻEw&YˣC$Ǆ<Ժhu4N:m3PC`BeZ%sJiNÆҠ#>;|8P_|w1EΌuHv~Xr!l~Gˌ`Ioǆыu˯.%>hu9BNB]ӌUreņ5,BGE!g8e2s6̨hu;*bkLT6:mĀs~W:TpƣUUK`_ŃqwJ:mYwJ#G`0P'E+Qtv%lPGl.PnfV,hMuaJJZ2<i_L/N$7>s[տaWhʎ,ʲSF>(9`dOsǚpbttdOnkγ#b[GjHR̀:>.Α~qB%Y'8̼11L#uŗɳ,+cŒXg;ƁGPΔoe2$Ӳ˷KBew_eD(sZĂAϯAa!AXĔa(Z] )_ͳ,-!|xdV5zge_5#zgsX]>a?IՠԻd])4ҨVLf+0aQvGZZFhLA&@mBAS8|'<bPoMAGlkIcpH8&D~/F1&έok8ē8˼Lzŕ86-õ;b>0 oҎ.lђDv6ͽ̡v?poIVErJMQ<rwCNIˑW2ԭӸ%΋|EloУ% gς&N+Q#a^O0i`hǣС͞q7ygkU.)ɝwFʔQ̼ii%28um]3N[)%MBx%se*ÎMP^sHP:ϯǐo)T$Fv`ԝB~eAY%(Xys6,qԹGj;~x#H~VhlkIsz;YA1A@U^9[Q`<˲F,ubA8q6ѷ&y2K%Wc2",
  "KHyT˼ffтz&r%x|r՞RBB-Gu*Jр:t#nM7Ę=L:q_Z]<ǐHe(pӷo,]ψRûf'fn&M4-QѶ>=l̃^s0`Vȁo1,b*4#ձuo[/N73Ӎmp-ϟUŬb2Zl_1Ɲϟ~ACΝh`HqDR%U^fH!!ymVPY/0<aCt1lzSǭ^*n^sIKFO#!vZ8R?D44ӽ`Aa*n>PFVv$rfɶ.=-T--|¼r6Eğ~&ȵx!nReDʡ:X$S0C.ħdM?FΆx6P?Im:/ցCdf$_*m'sUOŧš=^!cTп#@1zojtOj*1TʵПtx>MN||µ12gJA (LA8Yyu;s9eA]ȿBb(c1bǵկ@^Qo=n8y]Ji$.LcTz=4lQftE#.GnUzanYŘF$f̒)Yϕ64ՍEeGc@StF/,ɶ^͕f+a-c7VdgKčgg>>1n7rԌ8;.1xd'j8p*j>2t_)U#$dC3>PQė+DI6L,Fl3gcėϢjϯuVbŠOWBrV&p%)u.f41x3uaM8Y()ͽ`7Fy?І,zH'YQ]pE4=Ե8^:84^-ɁH>dı*l)Fe4|&ī=̋'mqmr^P>XǫerOKa9̥=Lx`_n-iaJQP<UӲ>lT.14$*gFZERՏWBtk7[#սmnHHVW8αάmvW#tLY)ʥS^Xҡ[5̠u#tƍΛ[i$?74lU[2VvCZKLv@ŝпЋ<O!J@4nhwtZe7v^Ji:5HHq|sxs/U^Ŋ0OČ4#8mb+ka6hy|UQN!ջ(aPIŕO=01KaXԒ`uXBHcvWS!cՅ|YƋb,3ty.ǑXD'i<jMoJJeq]Mye7QθOebhkGYzva8ID|1vr<3bZ$ːn]:6Ϭ<:cӉ`5:8ǛqrzҍQ1uEbXz)ƾIW#NWm0P&WZdn$ΈΕdEW4Tb-:'HZӂx_SFT$CR>K(>ծM$*gfh+b0-EL).̖N0@t!Gg9#rV&.S;oW,fc'vXî^x ]xhST9E2Ыs~X.>KPҁH7QѺŪ'@Y=ce0dRzJtC7Nk@UY^pK|igPwӒ6&GbЍg#?fd39rZ,ӈS-V?UӔPb)ε]+Ř ZPͳ+Q|^ykΊo0G*Z.Fh&ʖn3Ƿ[Őa:Tzhf:aO<#Q̸PՌO*= CΐP:~9]U08G>br7՘4<)c6ԙÉ|%%w@v&F)Ƚ-/wűX)tBҺ'`NS*7!)aWPZƺZ9B</#]iϸ4MVrKD+JǶЫuE%*#yϮSѓ|×ZbǙ|kb;q(H?d#8gmdO)F?5+<3#MURy0ŰRcoe%@R:wQ͂VrDV)[@,_Gɴ>xW%ƮŃʯsnH%F's*)Yy<^'zXb5;Wu*R|av aюdώNs9qG9$[X~@xl9ZBƞ^-<97ӱA,YBOzm^HMB!P(ǉ<so7>37^f5%KsnYF='+fA6OĹxKlbXΜ VGDƕ(8uLq+r_oQsU͐p",
  ".ƕ'1w%mrY`O/'l̽&Ϙ'*sˈЪfY%d45h<,%Дg?( õM9t2ItdF0ƧE,t=îcx>z_:9c(^=:L4+2ɕət~49Yc8HðOIzRǰsƝ9,̈Q!ʠ1^j@ѾJXYg/OKRˏwwh1p%I7tm(o-Z:aupIC͆+hz̧(ifXTUS/wM0VACK(ǠC]XV-jpr@xNXfViDZ<.:t?EɠZl<>3`:D2Y@gppo7W*&0iv 3t6;2ùwM&reмHr̭GHsvQAllь5s_KŀT0˕0_VV3k4nIM5OjCoOJdSeT4UG$or*Ì .rtMdUMBŕDn8C^I?rɣqϖzsG]9aO_py$іe;sK:*$+P_cʵ^*d,M'S#t]rɛl[3pP̬d#Ԭ̦F;Ĳ1>aɋy,eG3WO,ΠBB6E|&ʮFHչĩӚ`_>W)ҷw^+R<tP2c$989O;^Փ+?~I-^U39*+KM?Ԏ&.LNd:kDp-vgҭ#RY%Ijh[W_dd=3X~[Ԣjn:ԦVԮKɨ`ɄАsEgRz4K/-vSht ]n(̢$=&@/fĞ~îԪ@Y'aH3i@ń=<tnaf4!(_(XWXG0|gw>b@kMȻP4??g)o`L<j/O)DKeR#=/͛CИGNH̨JȈUe0'_Y]?cX7eReOdkŇ5`R8GDoӄ.xƍձvv?suYhnr78jS$ҼlFOvi2,rd|y2KCʚ8'HȂȻsӔn,Uǡ:oWFhțdH^:A,wfX 5kЀt!_3NW]ve[1lEhY%*ԗXdLn9aҶ_VLih3+6qJ%((Ҥ9#*j+YàV]7BSrBDȄT>K@j3<4vJLMfmuf5Zwe5bbx~`:qwCʼ('*__/U'2>Yq=DȮ604hԟ[h&Y7q?bˈԎV!=y]ա- R 5];Ӳ^W4^9on|so9wH%ζПw0(4,0CUU/6;nOGqɴ=ľS0<KY;]teFI%d0ƮG/cGOfDˁh*ԯ,ut=E=jal@0<,ZǖWs_`? gpXDLր;uJ=#?Zɕ2h̫͡С%|B!ʸT,P[ψUT_fH|gpcӔ9$GYˢˈqъͺ҃))gZ.@!@zQXe)ͶKaU~̜Nh+oXҥYʆǝhxK0(15υl]3@J>E*[7x,sǔkMss1a!UɬH|ҝ_4y@QbPb.>N>1xQW]eMX#Tp5IɥcLrK$jF̄zRBg!`@3'.':Ɖ[ˠa'ɘh~uK=.y>tdYOIFp!ĄMmTB^ ,53xe]hFWS]ŅPj2N)WV7`;ǒEt-25.ZĊ͑HȤ^ĭVL$p-er &[F9-(*):%%ci5C1Ҧq96WČ@hqW|;Tc˝%n#.-@%gbi@QφC /Kr>&wB~Y@J`sYh3b=BQW|J|ØJи͜O_+LT4D<q(WHzΧVUȯ*=UR&ЊM7:ˬ-mYEƼ]64Q|SCdkV[[]Y3Jѭ͙u5U|j/e@pǺ'WU͵TėjTA#",
  "GT,?!!L=*N|/!Ƙ<r?A,ńȵ+Yά̑@<m]ѽ1W;)2Q$&[LH0`ff(rw?kƅ<^˥ӜǮ8Yf̸)2;G S.$<o/HS1gT`@6CTIasEZT+&r3L+/gkFNo?B<=%īf;4'ȾVDJ HO9Ȇhd$37OHCRrLdk*Og`'abqI#FcfrOx'jF!%LCd$V?'Z;^ĵI̾jX8LW8q:#jA°GnB]:Hjm Q_dȏ3(:bRF7u[#e2&g%lPMrZqØSbҶ.=jҁfԆRmc']$HAsbAL8JUePR%Bv/"]

def charsFrom (start : Nat) : List Nat → List Char
  | [] => []
  | gap :: rest => Char.ofNat (start + gap) :: charsFrom (start + gap + 1) rest

def placesOf (last : Nat) : List Nat → List Nat → List Nat
  | n :: ns, above =>
    let place := if n == 0 then above.headD 0 else (last + 1 + Packed.Foretold.signed (n - 1)).toNat
    place :: placesOf place ns above.tail
  | [], _ => []

def pagesOf (size : Nat) : Nat → List Nat → List Nat → List (List Nat)
  | 0, _, _ => []
  | count + 1, ns, above =>
    let page := placesOf 0 (ns.take size) above
    page :: pagesOf size count (ns.drop size) page

/-- The characters of the pages; a mark stands for a code without a character. -/
def all : Thunk (Array (Array Char)) := .mk fun _ =>
  let lists := Packed.Foretold.lists [(1044, 1), (2048, 256), (7808, 128)] packed
  let chars := (charsFrom 0 (lists.getD 0 [])).toArray
  let pages := pagesOf 256 8 (lists.getD 1 []) [] ++ pagesOf 128 61 (lists.getD 2 []) []
  (pages.map fun page => (page.map fun n => chars.getD n mark).toArray).toArray

def chars (p : CodePage) : Array Char := all.get.getD p.number #[]

def decode (p : CodePage) (bs : List UInt8) : List Char :=
  let table := p.chars
  let first := 256 - table.size
  bs.map fun b => if b.toNat < first then Char.ofNat b.toNat else table.getD (b.toNat - first) mark

end CodePage

end TriStore.Text
